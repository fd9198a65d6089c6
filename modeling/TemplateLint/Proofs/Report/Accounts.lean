import Mathlib.Data.List.Sublists
import TemplateLint.Proofs.Invocation
import TemplateLint.Proofs.Report.Rows

/-!
The report for people accounts for every finding: each that is shown has a line under the name of
its file, and the counts below are those of the lines above.
-/

namespace TemplateLint

namespace Report

section FindingRows

variable (verbose : Bool) (current : Option String) (findings : List Finding)

/-- What opens the lines of a finding shows none, and names its file if it is a new one. -/
theorem filterMap_openingRows (finding : Finding) :
    (openingRows current finding).filterMap Row.finding? = [] ∧
      (openingRows current finding).filterMap Row.heading? =
        if current = some finding.filePath then [] else [finding.filePath] := by
  -- Only a change of file opens with lines, and of these only the last says anything.
  cases current with
  | none => exact ⟨rfl, rfl⟩
  | some path =>
    by_cases same : path = finding.filePath
    · simp [openingRows, same]
    · rw [openingRows, if_neg same, if_neg (by simpa using same)]
      exact ⟨rfl, rfl⟩

/-- The quoted source is neither a finding nor a heading. -/
theorem filterMap_sourceRows (finding : Finding) :
    (sourceRows verbose finding).filterMap Row.finding? = [] ∧
      (sourceRows verbose finding).filterMap Row.heading? = [] := by
  cases verbose <;> exact ⟨rfl, rfl⟩

/-- Each finding has its line, in order. -/
theorem findings_findingRows :
    (findingRows verbose current findings).filterMap Row.finding? = findings := by
  -- Neither what opens the lines of a finding nor its source is the line of one.
  induction findings generalizing current with
  | nil => rfl
  | cons finding later ih =>
    have own (rest : List Row) : (Row.finding finding :: rest).filterMap Row.finding? =
        finding :: rest.filterMap Row.finding? := rfl
    rw [findingRows, List.filterMap_append, (filterMap_openingRows current finding).1, own,
      List.filterMap_append, (filterMap_sourceRows verbose finding).1, ih, List.nil_append,
      List.nil_append]

/-- Each finding stands under the name of its file. -/
theorem underHeadings_findingRows :
    underHeadings current (findingRows verbose current findings) =
      findings.map fun finding => (some finding.filePath, finding) := by
  -- Whatever the heading before, behind the opening the file of the finding is named.
  have opening (finding : Finding) (rest : List Row) (current : Option String) :
      underHeadings current (openingRows current finding ++ rest) =
        underHeadings (some finding.filePath) rest := by
    cases current with
    | none => rfl
    | some path =>
      by_cases same : path = finding.filePath <;> simp [openingRows, same, underHeadings]
  have quoted (finding : Finding) (rest : List Row) (current : Option String) :
      underHeadings current (sourceRows verbose finding ++ rest) = underHeadings current rest := by
    cases verbose <;> simp [sourceRows, underHeadings]
  induction findings generalizing current with
  | nil => rfl
  | cons finding later ih =>
    rw [findingRows, opening, underHeadings, quoted, ih, List.map_cons]

/-- The findings of each file stand together: what is between two of a file is of that file. -/
def IsContiguous (findings : List Finding) : Prop :=
  ∀ first middle last, [first, middle, last].Sublist findings → first.filePath = last.filePath →
    middle.filePath = first.filePath

variable {findings}

/-- Findings that are left of findings that stand together stand together. -/
theorem IsContiguous.sublist {fewer : List Finding} (contiguous : IsContiguous findings)
    (left : fewer.Sublist findings) : IsContiguous fewer :=
  -- Any three of the fewer findings are three of all of them, in the same order.
  fun first middle last three => contiguous first middle last (three.trans left)

/-- Behind the heading of its file, findings that stand together have one for each new file. -/
theorem headings_behind {first : Finding} {later : List Finding}
    (contiguous : IsContiguous (first :: later)) :
    first.filePath ::
        (findingRows verbose (some first.filePath) later).filterMap Row.heading? =
      ((first :: later).map (·.filePath)).eraseDups := by
  -- The induction is on the findings behind the first, which then is any of them.
  induction later generalizing first with
  | nil => rfl
  | cons next more ih =>
    have rest := ih (contiguous.sublist (List.sublist_cons_self _ _))
    have onward : (findingRows verbose (some first.filePath) (next :: more)).filterMap
        Row.heading? =
        (if some first.filePath = some next.filePath then [] else [next.filePath]) ++
          (findingRows verbose (some next.filePath) more).filterMap Row.heading? := by
      rw [findingRows, List.filterMap_append, (filterMap_openingRows _ next).2,
        List.filterMap_cons_none rfl, List.filterMap_append,
        (filterMap_sourceRows verbose next).2, List.nil_append]
    rw [onward]
    by_cases same : first.filePath = next.filePath
    · -- The next finding is of the file that the heading names.
      rw [if_pos (congrArg some same), List.nil_append, same, rest]
      simp [List.eraseDups_cons, same]
    · -- No later finding is of this file again.
      have others : ((next :: more).map (·.filePath)).filter (fun path => !path == first.filePath) =
          (next :: more).map (·.filePath) := by
        refine List.filter_eq_self.mpr fun path member => ?_
        obtain ⟨last, among, rfl⟩ := List.mem_map.mp member
        have apart : last.filePath ≠ first.filePath := by
          intro back
          rcases List.mem_cons.mp among with rfl | later
          · exact same back.symm
          · have three : [first, next, last].Sublist (first :: next :: more) :=
              ((List.singleton_sublist.mpr later).cons_cons next).cons_cons first
            exact same (contiguous first next last three back.symm).symm
        simpa using apart
      have split : (first :: next :: more).map (·.filePath) =
          first.filePath :: (next :: more).map (·.filePath) := rfl
      rw [if_neg (by simpa using same), List.singleton_append, rest, split, List.eraseDups_cons,
        others]

/-- Findings that stand together have one heading for each file, in order of first appearance. -/
theorem headings_findingRows (contiguous : IsContiguous findings) :
    (findingRows verbose none findings).filterMap Row.heading? =
      (findings.map (·.filePath)).eraseDups := by
  cases findings with
  | nil => rfl
  | cons first later =>
    rw [← headings_behind verbose contiguous, findingRows, List.filterMap_append,
      (filterMap_openingRows none first).2, List.filterMap_cons_none rfl, List.filterMap_append,
      (filterMap_sourceRows verbose first).2, List.nil_append]
    rfl

/-- The lines about findings are about them and their files. -/
theorem mem_findingRows {row : Row} (member : row ∈ findingRows verbose current findings) :
    row = .gap ∨ ∃ finding ∈ findings,
      row = .heading finding.filePath ∨ row = .finding finding ∨ row = .source finding := by
  -- The lines of the first finding come in four groups, and the last of them is that of the later
  -- findings.
  induction findings generalizing current with
  | nil => simp [findingRows] at member
  | cons finding later ih =>
    simp only [findingRows, List.mem_append, List.mem_cons] at member
    rcases member with opening | rfl | quoted | inside
    · cases current with
      | none =>
        obtain rfl := List.mem_singleton.mp opening
        exact .inr ⟨finding, List.mem_cons_self, .inl rfl⟩
      | some path =>
        rw [openingRows] at opening
        split at opening
        · simp at opening
        · rcases List.mem_pair.mp opening with rfl | rfl
          · exact .inl rfl
          · exact .inr ⟨finding, List.mem_cons_self, .inl rfl⟩
    · exact .inr ⟨finding, List.mem_cons_self, .inr (.inl rfl)⟩
    · rw [sourceRows] at quoted
      split at quoted
      · obtain rfl := List.mem_singleton.mp quoted
        exact .inr ⟨finding, List.mem_cons_self, .inr (.inr rfl)⟩
      · simp at quoted
    · rcases ih _ inside with gap | ⟨other, among, same⟩
      · exact .inl gap
      · exact .inr ⟨other, List.mem_cons_of_mem _ among, same⟩

/-- The lines about findings end with one that is not empty. -/
theorem endsFull_findingRows : EndsFull (findingRows verbose current findings) := by
  -- The induction is on the findings, since the last line is that of the last finding or its
  -- source.
  induction findings generalizing current with
  | nil => exact endsFull_of_forall (by simp [findingRows])
  | cons finding later ih =>
    have own : EndsFull [.finding finding] := endsFull_of_forall (by simp [Row.heading?])
    have quoted : EndsFull (sourceRows verbose finding) :=
      endsFull_of_forall (by cases verbose <;> simp [sourceRows, Row.heading?])
    have rows : EndsFull ([.finding finding] ++ (sourceRows verbose finding ++
        findingRows verbose (some finding.filePath) later)) :=
      own.append (quoted.append (ih _))
    -- A heading comes before its findings, so it does not matter whether it is empty.
    intro row last
    rw [findingRows, List.getLast?_append, Option.mem_def, Option.or_eq_some_iff] at last
    rcases last with here | ⟨none, _⟩
    · exact rows row here
    · simp at none

end FindingRows

section CountRows

variable {options : ReportOptions} {summary : Summary} {facts : RunFacts} {row : Row}

/-- A hint says what could be fixed. -/
theorem mem_hintRows (member : row ∈ hintRows options summary facts) :
    ∃ errors warnings, row = .hint errors warnings := by
  simp only [hintRows] at member
  generalize (if options.quiet = true then 0 else summary.fixableWarnings) = warnings at member
  split at member
  · exact ⟨_, _, List.mem_singleton.mp member⟩
  · simp at member

/-- Around the number of problems stand a gap and maybe a hint. -/
theorem mem_problemRows (member : row ∈ problemRows options summary facts) :
    row = .gap ∨ row = .problems summary.errors (shownWarnings options summary) ∨
      ∃ errors warnings, row = .hint errors warnings := by
  rw [problemRows] at member
  split at member
  · rcases List.mem_cons.mp member with gap | rest
    · exact .inl gap
    · exact .inr ((List.mem_cons.mp rest).imp_right mem_hintRows)
  · simp at member

/-- One line counts todos. -/
theorem mem_todoRows (member : row ∈ todoRows options summary) : row = .todos summary.todos := by
  rw [todoRows] at member
  split at member
  · exact List.mem_singleton.mp member
  · simp at member

/-- One line counts todos made and dropped. -/
theorem mem_changeRows (member : row ∈ changeRows facts) :
    ∃ added removed, row = .changes added removed := by
  unfold changeRows at member
  split at member
  · exact ⟨_, _, List.mem_singleton.mp member⟩
  · simp at member

/-- One line is about too many warnings. -/
theorem mem_thresholdRows (member : row ∈ thresholdRows options summary facts) :
    ∃ limit, row = .tooMany limit := by
  unfold thresholdRows at member
  split at member
  · split at member
    · exact ⟨_, List.mem_singleton.mp member⟩
    · simp at member
  · simp at member

/-- The lines about counts are about no finding. -/
theorem mem_countRows (member : row ∈ countRows options summary facts) :
    row.finding? = none ∧ row.heading? = none ∧ row.IsPlain := by
  simp only [countRows, List.mem_append] at member
  -- Each of the four groups has lines of its own kinds.
  rcases member with ((problem | todo) | change) | many
  · rcases mem_problemRows problem with rfl | rfl | ⟨errors, warnings, rfl⟩ <;>
      exact ⟨rfl, rfl, trivial⟩
  · rw [mem_todoRows todo]
    exact ⟨rfl, rfl, trivial⟩
  · obtain ⟨added, removed, rfl⟩ := mem_changeRows change
    exact ⟨rfl, rfl, trivial⟩
  · obtain ⟨limit, rfl⟩ := mem_thresholdRows many
    exact ⟨rfl, rfl, trivial⟩

section Reading

variable {β : Type} {read : Row → Option β}

/-- Nothing is read of a line about todos made and dropped that is of no such line. -/
theorem filterMap_changeRows (changes : ∀ added removed, read (.changes added removed) = none)
    (facts : RunFacts) : (changeRows facts).filterMap read = [] := by
  refine List.filterMap_eq_nil_iff.mpr fun row member => ?_
  obtain ⟨added, removed, rfl⟩ := mem_changeRows member
  exact changes added removed

/-- Nothing is read of a line about too many warnings that is of no such line. -/
theorem filterMap_thresholdRows (tooMany : ∀ limit, read (.tooMany limit) = none)
    (options : ReportOptions) (summary : Summary) (facts : RunFacts) :
    (thresholdRows options summary facts).filterMap read = [] := by
  refine List.filterMap_eq_nil_iff.mpr fun row member => ?_
  obtain ⟨limit, rfl⟩ := mem_thresholdRows member
  exact tooMany limit

end Reading

variable (options summary facts)

/-- Problems are counted in one line, if there are any. -/
theorem problems_countRows :
    (countRows options summary facts).filterMap Row.problems? =
      if 0 < summary.errors + shownWarnings options summary then
        [(summary.errors, shownWarnings options summary)]
      else [] := by
  -- Only the first of the lines about problems counts them, and no other line does.
  have hints : (hintRows options summary facts).filterMap Row.problems? = [] := by
    refine List.filterMap_eq_nil_iff.mpr fun row member => ?_
    obtain ⟨errors, warnings, rfl⟩ := mem_hintRows member
    rfl
  have todos : (todoRows options summary).filterMap Row.problems? = [] :=
    List.filterMap_eq_nil_iff.mpr fun row member => mem_todoRows member ▸ rfl
  have changes : (changeRows facts).filterMap Row.problems? = [] :=
    filterMap_changeRows (fun _ _ => rfl) facts
  have threshold : (thresholdRows options summary facts).filterMap Row.problems? = [] :=
    filterMap_thresholdRows (fun _ => rfl) options summary facts
  simp only [countRows, List.filterMap_append, todos, changes, threshold, List.append_nil,
    problemRows]
  split
  · rw [List.filterMap_cons_none rfl]
    exact congrArg (List.cons _) hints
  · rfl

/-- Todos that are not shown are counted in one line, if there are any. -/
theorem todos_countRows :
    (countRows options summary facts).filterMap Row.todos? =
      if 0 < summary.todos ∧ options.includeTodo = false then [summary.todos] else [] := by
  -- No line but its own counts todos.
  have problems : (problemRows options summary facts).filterMap Row.todos? = [] := by
    refine List.filterMap_eq_nil_iff.mpr fun row member => ?_
    rcases mem_problemRows member with rfl | rfl | ⟨errors, warnings, rfl⟩ <;> rfl
  have changes : (changeRows facts).filterMap Row.todos? = [] :=
    filterMap_changeRows (fun _ _ => rfl) facts
  have threshold : (thresholdRows options summary facts).filterMap Row.todos? = [] :=
    filterMap_thresholdRows (fun _ => rfl) options summary facts
  have same : (0 < summary.todos && !options.includeTodo) = true ↔
      0 < summary.todos ∧ options.includeTodo = false := by
    simp
  simp only [countRows, List.filterMap_append, problems, changes, threshold, List.append_nil,
    List.nil_append, todoRows, if_congr same rfl rfl]
  split <;> rfl

variable {facts} in
/-- Too many warnings are named in a line. -/
theorem tooMany_mem_countRows {limit : Nat} (limited : facts.maxWarnings = some limit)
    (beyond : summary.exceeds options.quiet (some limit) = true) :
    .tooMany limit ∈ countRows options summary facts := by
  refine List.mem_append_right _ ?_
  simp [thresholdRows, limited, beyond]

/-- The lines about counts end with one that is not empty. -/
theorem endsFull_countRows : EndsFull (countRows options summary facts) := by
  have problems : EndsFull (problemRows options summary facts) := by
    rw [problemRows]
    split
    · -- Behind the gap no line is empty.
      have behind : EndsFull (.problems summary.errors (shownWarnings options summary) ::
          hintRows options summary facts) := by
        refine endsFull_of_forall fun row member => ?_
        rcases List.mem_cons.mp member with rfl | hint
        · exact ⟨by simp, rfl⟩
        · obtain ⟨errors, warnings, rfl⟩ := mem_hintRows hint
          exact ⟨by simp, rfl⟩
      intro row last
      rw [List.getLast?_cons_cons] at last
      exact behind row last
    · exact endsFull_of_forall (by simp)
  have todos : EndsFull (todoRows options summary) :=
    endsFull_of_forall fun row member => mem_todoRows member ▸ ⟨by simp, rfl⟩
  have changes : EndsFull (changeRows facts) := by
    refine endsFull_of_forall fun row member => ?_
    obtain ⟨added, removed, rfl⟩ := mem_changeRows member
    exact ⟨by simp, rfl⟩
  have threshold : EndsFull (thresholdRows options summary facts) := by
    refine endsFull_of_forall fun row member => ?_
    obtain ⟨limit, rfl⟩ := mem_thresholdRows member
    exact ⟨by simp, rfl⟩
  exact ((problems.append todos).append changes).append threshold

end CountRows

/-- The counts over findings are the numbers of findings of each severity. -/
theorem counts_ofFindings (findings : List Finding) :
    (Summary.ofFindings findings).errors = findings.countP (·.severity = .error) ∧
      (Summary.ofFindings findings).warnings = findings.countP (·.severity = .warning) ∧
      (Summary.ofFindings findings).todos = findings.countP (·.severity = .todo) := by
  -- The fold starts from any counts, so that the induction goes through.
  have todos (summary : Summary) : (findings.foldl Summary.add summary).todos =
      summary.todos + findings.countP (·.severity = .todo) := by
    induction findings generalizing summary with
    | nil => rfl
    | cons finding later ih =>
      rw [List.foldl_cons, ih, Summary.add]
      cases weight : finding.severity <;> simp [weight, Nat.add_assoc, Nat.add_comm]
  obtain ⟨errors, warnings⟩ := Summary.foldl_add findings .zero
  rw [Summary.ofFindings, errors, warnings, todos]
  simp [Summary.zero]

/-- Of the findings that are shown all errors are, and the warnings unless the run is quiet. -/
theorem countP_shown (options : ReportOptions) (findings : List Finding) :
    (findings.filter options.shows).countP (·.severity = .error) =
        findings.countP (·.severity = .error) ∧
      (findings.filter options.shows).countP (·.severity = .warning) =
        if options.quiet then 0 else findings.countP (·.severity = .warning) := by
  rw [List.countP_filter, List.countP_filter]
  constructor
  · refine List.countP_congr fun finding _ => ?_
    cases weight : finding.severity <;> simp [ReportOptions.shows, weight]
  · cases quiet : options.quiet with
    | true =>
      -- A quiet run shows no warning.
      rw [if_pos rfl, List.countP_eq_zero]
      intro finding _
      cases weight : finding.severity <;> simp [ReportOptions.shows, weight, quiet]
    | false =>
      rw [if_neg Bool.false_ne_true]
      refine List.countP_congr fun finding _ => ?_
      cases weight : finding.severity <;> simp [ReportOptions.shows, weight, quiet]

/-- What the lines of a report say accounts for the findings that it is made of. -/
structure AccountsFor (options : ReportOptions) (findings : List Finding) (rows : List Row) :
    Prop where
  /-- One heading for each file with a finding that is shown. -/
  headings : rows.filterMap Row.heading? =
    ((findings.filter options.shows).map (·.filePath)).eraseDups
  /-- One line for each finding that is shown, in order. -/
  shown : rows.filterMap Row.finding? = findings.filter options.shows
  /-- Each of them stands under the name of its file. -/
  under : underHeadings none rows =
    (findings.filter options.shows).map fun finding => (some finding.filePath, finding)
  /-- The problems are counted if there are any: all errors, and the warnings that are shown. -/
  problems : rows.filterMap Row.problems? =
    let errors := findings.countP (·.severity = .error)
    let warnings := if options.quiet then 0 else findings.countP (·.severity = .warning)
    if 0 < errors + warnings then [(errors, warnings)] else []
  /-- They are the lines of errors and warnings above. -/
  above : ∀ before errors warnings after, rows = before ++ .problems errors warnings :: after →
    errors = (before.filterMap Row.finding?).countP (·.severity = .error) ∧
      warnings = (before.filterMap Row.finding?).countP (·.severity = .warning)
  /-- Every todo is shown if they are asked for. -/
  todosShown : options.includeTodo = true →
    (rows.filterMap Row.finding?).filter (·.severity = .todo) =
      findings.filter (·.severity = .todo)
  /-- If they are not, they are counted if there are any. -/
  todosCounted : rows.filterMap Row.todos? =
    if 0 < findings.countP (·.severity = .todo) ∧ options.includeTodo = false then
      [findings.countP (·.severity = .todo)]
    else []

/-- Nothing is read of lines about findings that is of no such line. -/
theorem filterMap_findingRows {β : Type} (read : Row → Option β) (gap : read .gap = none)
    (heading : ∀ path, read (.heading path) = none)
    (shown : ∀ finding, read (.finding finding) = none)
    (source : ∀ finding, read (.source finding) = none) (verbose : Bool)
    (current : Option String) (findings : List Finding) :
    (findingRows verbose current findings).filterMap read = [] := by
  refine List.filterMap_eq_nil_iff.mpr fun row member => ?_
  rcases mem_findingRows verbose current member with rfl | ⟨finding, _, rfl | rfl | rfl⟩
  · exact gap
  · exact heading _
  · exact shown _
  · exact source _

/-- Lines that show no findings change nothing about those above them. -/
theorem underHeadings_append {rows more : List Row} (none : ∀ row ∈ more, row.finding? = none)
    (current : Option String) :
    underHeadings current (rows ++ more) = underHeadings current rows := by
  induction rows generalizing current with
  | nil =>
    -- Behind the lines that show findings, the heading may change with every line and is never
    -- read.
    rw [List.nil_append]
    induction more generalizing current with
    | nil => rfl
    | cons row later ih =>
      obtain ⟨own, rest⟩ := List.forall_mem_cons.mp none
      cases row <;> first | exact ih rest _ | cases own
  | cons row later ih => cases row <;> simp [underHeadings, ih]

/-- Above the number of problems stand the lines of all findings. -/
theorem shown_above {verbose : Bool} {findings : List Finding} {more before after : List Row}
    {errors warnings : Nat} (none : ∀ row ∈ more, row.finding? = none)
    (split : findingRows verbose .none findings ++ more =
      before ++ .problems errors warnings :: after) :
    before.filterMap Row.finding? = findings := by
  -- The number stands either among the lines behind the findings or among those about them.
  rcases List.append_eq_append_iff.mp split with ⟨between, rfl, rest⟩ | ⟨between, same, rest⟩
  · have nothing : between.filterMap Row.finding? = [] :=
      List.filterMap_eq_nil_iff.mpr fun row member =>
        none row (rest ▸ List.mem_append_left _ member)
    rw [List.filterMap_append, findings_findingRows, nothing, List.append_nil]
  · cases between with
    | nil =>
      rw [List.append_nil] at same
      rw [← same, findings_findingRows]
    | cons row later =>
      -- The number of problems is no line about a finding.
      obtain ⟨rfl, _⟩ := List.cons.inj rest
      have inside : Row.problems errors warnings ∈ findingRows verbose .none findings := by
        simp [same]
      rcases mem_findingRows verbose _ inside with gap | ⟨_, _, heading | shown | source⟩
      · cases gap
      · cases heading
      · cases shown
      · cases source

/-- The lines of a report account for its findings. -/
theorem accountsFor_rowsOf {options : ReportOptions} {findings : List Finding}
    (contiguous : IsContiguous findings) (facts : RunFacts) :
    AccountsFor options findings (rowsOf options (.ofFindings findings) facts) := by
  obtain ⟨errors, warnings, todos⟩ := counts_ofFindings findings
  have apart : ∀ row ∈ countRows options (.ofFindings findings) facts,
      row.finding? = none ∧ row.heading? = none ∧ row.IsPlain :=
    fun _ => mem_countRows
  -- The lines about counts are passed over by every reading but those of numbers, so findings and
  -- headings are read off the lines before them.
  have noFinding : (countRows options (.ofFindings findings) facts).filterMap Row.finding? = [] :=
    List.filterMap_eq_nil_iff.mpr fun row member => (apart row member).1
  have noHeading : (countRows options (.ofFindings findings) facts).filterMap Row.heading? = [] :=
    List.filterMap_eq_nil_iff.mpr fun row member => (apart row member).2.1
  have rows : rowsOf options (.ofFindings findings) facts =
      findingRows options.verbose none (findings.filter options.shows) ++
        countRows options (.ofFindings findings) facts := rfl
  have shown : (rowsOf options (.ofFindings findings) facts).filterMap Row.finding? =
      findings.filter options.shows := by
    rw [rows, List.filterMap_append, findings_findingRows, noFinding, List.append_nil]
  have problems : (rowsOf options (.ofFindings findings) facts).filterMap Row.problems? =
      let errors := findings.countP (·.severity = .error)
      let warnings := if options.quiet then 0 else findings.countP (·.severity = .warning)
      if 0 < errors + warnings then [(errors, warnings)] else [] := by
    have none : (findingRows options.verbose none (findings.filter options.shows)).filterMap
        Row.problems? = [] :=
      filterMap_findingRows _ rfl (fun _ => rfl) (fun _ => rfl) (fun _ => rfl) _ _ _
    rw [rows, List.filterMap_append, none, problems_countRows, errors, shownWarnings, warnings]
    rfl
  refine ⟨?_, shown, ?_, problems, ?_, ?_, ?_⟩
  · rw [rows, List.filterMap_append, noHeading, List.append_nil,
      headings_findingRows _ (contiguous.sublist List.filter_sublist)]
  · rw [rows, underHeadings_append fun row member => (apart row member).1,
      underHeadings_findingRows]
  · -- The numbers of the line are those of all findings that are shown, which stand above it.
    intro before own ownWarnings after split
    have all := shown_above (fun row member => (apart row member).1) (rows ▸ split)
    have counted : (own, ownWarnings) ∈
        (rowsOf options (.ofFindings findings) facts).filterMap Row.problems? :=
      List.mem_filterMap.mpr ⟨.problems own ownWarnings, by simp [split], rfl⟩
    obtain ⟨allErrors, allWarnings⟩ := countP_shown options findings
    rw [problems] at counted
    simp only [← allErrors, ← allWarnings] at counted
    rw [all]
    split at counted
    · obtain ⟨rfl, rfl⟩ := Prod.mk.inj (List.mem_singleton.mp counted)
      exact ⟨rfl, rfl⟩
    · simp at counted
  · -- Whoever asks for todos is shown all of them.
    intro asked
    rw [shown, List.filter_filter]
    refine List.filter_congr fun finding _ => ?_
    cases weight : finding.severity <;> simp [ReportOptions.shows, weight, asked]
  · have none : (findingRows options.verbose none (findings.filter options.shows)).filterMap
        Row.todos? = [] :=
      filterMap_findingRows _ rfl (fun _ => rfl) (fun _ => rfl) (fun _ => rfl) _ _ _
    rw [rows, List.filterMap_append, none, todos_countRows, todos]
    rfl

variable {options : ReportOptions} {findings : List Finding}

/-- The lines of a report about plain findings are one line each. -/
theorem isPlain_rowsOf (plain : ∀ finding ∈ findings, IsPlain finding) (facts : RunFacts) :
    ∀ row ∈ rowsOf options (.ofFindings findings) facts, row.IsPlain := by
  intro row member
  -- A finding that is shown is one of the findings, and the lines about counts hold no text of
  -- theirs.
  rcases List.mem_append.mp member with shown | count
  · rcases mem_findingRows _ _ shown with rfl | ⟨finding, among, same⟩
    · trivial
    · have own := plain finding (List.mem_filter.mp among).1
      rcases same with rfl | rfl | rfl
      · exact own.filePath
      · exact own
      · exact own
  · exact (mem_countRows count).2.2

/-- The text of a report without colours is that of its lines. -/
theorem reportLines_prettyText (uncoloured : usesColours options = false)
    (plain : ∀ finding ∈ findings, IsPlain finding) (facts : RunFacts) :
    reportLines (prettyText options (.ofFindings findings) facts) =
      (rowsOf options (.ofFindings findings) facts).map Row.text := by
  have lines := prettyLines_eq uncoloured (.ofFindings findings) facts
  have full : EndsFull (rowsOf options (.ofFindings findings) facts) :=
    (endsFull_findingRows _ _).append (endsFull_countRows options _ facts)
  simp only [prettyText, lines]
  -- The lines are told apart again if none has a line end in it and the last is not empty.
  refine reportLines_joined ?_ ?_
  · intro line member
    obtain ⟨row, inside, rfl⟩ := List.mem_map.mp member
    exact Row.isLine_text (isPlain_rowsOf plain facts row inside)
  · intro line last
    rw [List.getLast?_map, Option.mem_def, Option.map_eq_some_iff] at last
    obtain ⟨row, own, rfl⟩ := last
    exact full row own

/-- A report of a run that fails has lines, and one about its warnings if it shows no error. -/
theorem rowsOf_of_failing {facts : RunFacts}
    (failing : (Summary.ofFindings findings).exitStatus options.quiet facts.maxWarnings = 1) :
    rowsOf options (.ofFindings findings) facts ≠ [] ∧
      ((∀ finding ∈ findings.filter options.shows, finding.severity ≠ .error) →
        ∃ limit, facts.maxWarnings = some limit ∧
          .tooMany limit ∈ rowsOf options (.ofFindings findings) facts) := by
  -- A run fails for an error or for too many warnings.
  rcases (Summary.exitStatus_eq_one_iff _ _ _).mp failing with
    ⟨finding, member, error⟩ | ⟨loud, limit, limited, beyond⟩
  · -- Errors are always shown.
    have shown : finding ∈ findings.filter options.shows :=
      List.mem_filter.mpr ⟨member, by simp [ReportOptions.shows, error]⟩
    refine ⟨fun nothing => ?_, fun noError => absurd error (noError finding shown)⟩
    have all := findings_findingRows options.verbose none (findings.filter options.shows)
    have empty : findingRows options.verbose none (findings.filter options.shows) = [] :=
      (List.append_eq_nil_iff.mp nothing).1
    rw [empty] at all
    rw [← all] at shown
    cases shown
  · -- No error, so there are too many warnings and the run is not quiet.
    have exceeds : (Summary.ofFindings findings).exceeds options.quiet (some limit) = true := by
      simp [Summary.exceeds, loud, (counts_ofFindings findings).2.1, beyond]
    have many : .tooMany limit ∈ rowsOf options (.ofFindings findings) facts :=
      List.mem_append_right _ (tooMany_mem_countRows options _ limited exceeds)
    exact ⟨List.ne_nil_of_mem many, fun _ => ⟨limit, limited, many⟩⟩

/--
The report for people, without colours, accounts for every finding. Its lines are known for what
they say, and this accounts for the findings: each that is shown has its line under the name of its
file, and the counts are those of the lines above. A report of a run that fails is not empty, and if
it shows no error it names the number of warnings that is exceeded.
-/
theorem pretty_accounts (uncoloured : usesColours options = false)
    (plain : ∀ finding ∈ findings, IsPlain finding) (contiguous : IsContiguous findings)
    (facts : RunFacts) :
    ∃ text rows, pretty options (.ofFindings findings) facts = deliver options text ∧
      reportLines text = rows.map Row.text ∧ AccountsFor options findings rows ∧
      ((Summary.ofFindings findings).exitStatus options.quiet facts.maxWarnings = 1 →
        text ≠ "" ∧
        ((∀ finding ∈ rows.filterMap Row.finding?, finding.severity ≠ .error) →
          ∃ limit, facts.maxWarnings = some limit ∧ .tooMany limit ∈ rows)) := by
  have lines := reportLines_prettyText uncoloured plain facts
  have accounts : AccountsFor options findings (rowsOf options (.ofFindings findings) facts) :=
    accountsFor_rowsOf contiguous facts
  refine ⟨_, _, rfl, lines, accounts, fun failing => ?_⟩
  obtain ⟨some, named⟩ := rowsOf_of_failing failing
  refine ⟨fun empty => some ?_, fun noError => named ?_⟩
  · rw [empty] at lines
    exact List.map_eq_nil_iff.mp lines.symm
  · rwa [accounts.shown] at noError

/-- Findings of two files: warnings, and a todo. -/
def fewFindings : List Finding :=
  [⟨"bare", .warning, "a.hbs", 1, 4, "x", "Literal text", false⟩,
    ⟨"debug", .warning, "a.hbs", 2, 0, "y", "Unexpected debugger", true⟩,
    ⟨"debug", .warning, "b.hbs", 3, 2, "z", "Unexpected debugger", false⟩,
    ⟨"bare", .todo, "b.hbs", 5, 0, "u", "Literal text", false⟩]

/-- A report into a file, of which no more is asked. -/
def plainOptions : ReportOptions :=
  ⟨some "/p/report.txt", false, false, false, "/p", [], true⟩

/-- Their texts go on one line each. -/
theorem isPlain_fewFindings : ∀ finding ∈ fewFindings, IsPlain finding := by
  have each : ∀ finding ∈ fewFindings, IsLine finding.rule ∧ IsLine finding.filePath ∧
      IsLine finding.source ∧ IsLine finding.message := by
    decide +kernel
  intro finding member
  obtain ⟨rule, filePath, source, message⟩ := each finding member
  exact ⟨rule, filePath, source, message⟩

/-- Those of one file stand together. -/
theorem isContiguous_fewFindings : IsContiguous fewFindings := by
  -- Three findings in order are one of finitely many choices.
  have three : ∀ some ∈ fewFindings.sublists, ∀ first ∈ some[0]?, ∀ middle ∈ some[1]?,
      ∀ last ∈ some[2]?, first.filePath = last.filePath → middle.filePath = first.filePath := by
    decide +kernel
  exact fun first middle last within =>
    three _ (List.mem_sublists.mpr within) first rfl middle rfl last rfl

/-- Where one warning is allowed, the report of three says so. -/
theorem pretty_accounts_sample :
    usesColours plainOptions = false ∧ (∀ finding ∈ fewFindings, IsPlain finding) ∧
    IsContiguous fewFindings ∧
    (Summary.ofFindings fewFindings).exitStatus false (some 1) = 1 ∧
    ∃ text rows, pretty plainOptions (.ofFindings fewFindings) ⟨none, some 1, false⟩ =
        deliver plainOptions text ∧
      text ≠ "" ∧ reportLines text = rows.map Row.text ∧
      AccountsFor plainOptions fewFindings rows ∧ .tooMany 1 ∈ rows := by
  have failing : (Summary.ofFindings fewFindings).exitStatus false (some 1) = 1 := by decide +kernel
  obtain ⟨text, rows, made, lines, accounts, fails⟩ :=
    pretty_accounts (show usesColours plainOptions = false by decide) isPlain_fewFindings
      isContiguous_fewFindings ⟨none, some 1, false⟩
  have noError : ∀ finding ∈ fewFindings.filter plainOptions.shows, finding.severity ≠ .error := by
    decide +kernel
  obtain ⟨nonempty, named⟩ := fails failing
  obtain ⟨limit, same, many⟩ := named (accounts.shown ▸ noError)
  obtain rfl : 1 = limit := Option.some.inj same
  exact ⟨by decide, isPlain_fewFindings, isContiguous_fewFindings, failing, text, rows, made,
    nonempty, lines, accounts, many⟩

/-- What the lines of the same report say. -/
example : rowsOf plainOptions (.ofFindings fewFindings) ⟨none, some 1, false⟩ =
    [.heading "a.hbs", .finding fewFindings[0], .finding fewFindings[1], .gap, .heading "b.hbs",
      .finding fewFindings[2], .gap, .problems 0 3, .hint 0 1, .todos 1, .tooMany 1] := by
  decide +kernel

/-- The line of a finding, and the line that counts problems. -/
example : (Row.finding fewFindings[0]).text = "  1:4  ▲ warning  Literal text  ❲bare❳" ∧
    (Row.problems 0 3).text = "✖ 3 problems (0 errors, 3 warnings)" := by
  decide +kernel

end Report

end TemplateLint
