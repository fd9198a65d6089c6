import TemplateLint.Proofs.Todo.Conservation

/-!
What a todo does to the severity of the finding that it covers. The severity is that of the todo on
the day, whatever the rule is worth by now, so a todo that has come due for more than its finding
was told with makes the finding worse, and no other todo does.
-/

namespace TemplateLint

namespace Todo

/-- What the todo has come due for on a day is no more than a severity. -/
structure DueWithin (todo : Todo) (today : Date) (severity : Severity) : Prop where
  error : todo.errorDate.any (·.isAtMost today) = true → severity = .error
  warning : todo.warnDate.any (·.isAtMost today) = true → severity ≠ .todo

/-- The severity of a todo on a day is bounded by all that bounds what it has come due for. -/
theorem rank_severityOn_le_iff {todo : Todo} {today : Date} {severity : Severity} :
    (todo.severityOn today).rank ≤ severity.rank ↔ todo.DueWithin today severity := by
  unfold severityOn
  -- The later of the two dates decides, and without either the todo weighs nothing.
  cases error : todo.errorDate.any (·.isAtMost today) with
  | true =>
    rw [if_pos rfl]
    constructor
    · intro within
      have isError : severity = .error := by
        cases severity <;> simp [Severity.rank] at within ⊢
      exact ⟨fun _ => isError, fun _ put => by simp [put] at isError⟩
    · intro due
      obtain rfl := due.error error
      exact Nat.le_refl _
  | false =>
    rw [if_neg Bool.false_ne_true]
    cases warning : todo.warnDate.any (·.isAtMost today) with
    | true =>
      rw [if_pos rfl]
      constructor
      · intro within
        refine ⟨fun come => by simp [error] at come, fun _ put => ?_⟩
        simp [put, Severity.rank] at within
      · intro due
        have some := due.warning warning
        cases severity <;> simp [Severity.rank] at some ⊢
    | false =>
      rw [if_neg Bool.false_ne_true]
      constructor
      · intro _
        exact ⟨fun come => by simp [error] at come, fun come => by simp [warning] at come⟩
      · intro _
        exact Nat.zero_le _

end Todo

namespace TodoStore

open Todo Effect Pairing

variable {live : List Todo} {path : String} {findings : List Finding} {today : Date}

/-- A finding is no worse for a todo exactly when the todo has come due for no more than it. -/
theorem rank_coverWith_le_iff {finding : Finding} {own : Option Todo} :
    (coverWith today finding own).severity.rank ≤ finding.severity.rank ↔
      ∀ todo, own = some todo → todo.DueWithin today finding.severity := by
  cases own with
  | none => simp [coverWith]
  | some todo =>
    simp only [coverWith, rank_severityOn_le_iff, Option.some.injEq, forall_eq']

/-- Whatever covers a finding, it is the same finding but for its severity. -/
theorem coverWith_severity (finding : Finding) (own : Option Todo) :
    { coverWith today finding own with severity := finding.severity } = finding := by
  cases own <;> rfl

/-- Each finding has its place among the todos that findings have, and in what is reported. -/
theorem reported_at (live : List Todo) (path : String) (cleanup overriding : Bool) (today : Date)
    {position : Nat} {finding : Finding} (stands : findings[position]? = some finding) :
    ∃ own, (ownTodos live path findings)[position]? = some own ∧
      (finding, own) ∈ findings.zip (ownTodos live path findings) ∧
      (reported live path findings cleanup overriding today)[position]? =
        some (coverWith today finding own) := by
  have within : position < (ownTodos live path findings).length := by
    rw [length_ownTodos]
    exact (List.getElem?_eq_some_iff.mp stands).1
  have own := List.getElem?_eq_getElem within
  have paired : (findings.zip (ownTodos live path findings))[position]? =
      some (finding, (ownTodos live path findings)[position]) := by
    rw [List.getElem?_zip_eq_some]
    exact ⟨stands, own⟩
  have covered : (findings.zipWith (coverWith today) (ownTodos live path findings))[position]? =
      some (coverWith today finding (ownTodos live path findings)[position]) := by
    rw [List.getElem?_zipWith, stands, own]
  -- The stale todos come after all the findings.
  refine ⟨_, own, List.mem_of_getElem? paired, ?_⟩
  rw [reported_eq_append, List.getElem?_append_left (List.getElem?_eq_some_iff.mp covered).1]
  exact covered

/--
Every finding comes back at its place, the same but for its severity. It comes back no worse than it
was told exactly when its own todo, if it has one, has not come due for more. The todo that a
finding has is a live one of its rule, file and text that no other finding has, and the finding
takes the severity of that todo on the day.
-/
theorem process_no_worse_iff {store : TodoStore} {memory : TodoMemory} {changes : List Change}
    (coherent : store.Coherent memory changes) (path : String) (findings : List Finding)
    (cleanup overriding : Bool) (today : Date) :
    let owns := ownTodos (Todo.live changes) path findings
    (owns.filterMap id).Nodup ∧
      ∃ told left,
        perform (store.process path findings cleanup overriding today) memory = (.ok told, left) ∧
        ∀ (position : Nat) (finding : Finding), findings[position]? = some finding →
          ∃ answer : Finding, told[position]? = some answer ∧
            { answer with severity := finding.severity } = finding ∧
            (answer.severity.rank ≤ finding.severity.rank ↔
              ∀ todo : Todo, owns[position]? = some (some todo) →
                todo.DueWithin today finding.severity) ∧
            (owns[position]? = some none → answer = finding) ∧
            ∀ todo : Todo, owns[position]? = some (some todo) →
              todo ∈ todosIn (Todo.live changes) path ∧ todo.rule = finding.rule ∧
                sameFile todo.filePath finding.filePath = true ∧ todo.source = finding.source ∧
                answer.severity = todo.severityOn today := by
  intro owns
  have distinct := distinct_live changes
  have parted := parted_of_distinct distinct path findings
  obtain ⟨left, done, _⟩ := process_of_coherent coherent path findings cleanup overriding today
  refine ⟨nodup_ownTodos distinct, _, left, done, fun position finding stands => ?_⟩
  -- What a finding comes back as is settled by the todo, if any, at its own position.
  obtain ⟨own, here, paired, told⟩ :=
    reported_at (Todo.live changes) path cleanup overriding today stands
  have same : owns[position]? = some own := here
  refine ⟨coverWith today finding own, told, coverWith_severity finding own, ?_, ?_, ?_⟩
  · rw [rank_coverWith_le_iff, same]
    simp only [Option.some.injEq]
  · intro nothing
    rw [same] at nothing
    obtain rfl := Option.some.inj nothing
    rfl
  · intro todo has
    rw [same] at has
    obtain rfl := Option.some.inj has
    obtain ⟨rule, file, source⟩ := parted.akin finding todo paired
    have inside : todo ∈ (ownTodos (Todo.live changes) path findings).filterMap id :=
      List.mem_filterMap.mpr ⟨some todo, (List.of_mem_zip paired).2, rfl⟩
    exact ⟨mem_todosIn_of_ownTodos inside, rule, file, source, rfl⟩

/-- A todo that has counted as a warning for a while and counts as an error since a day. -/
def overdueTodo : Todo :=
  { sampleTodo 1 with
    warnDate := some ⟨738005, by decide⟩, errorDate := some ⟨738010, by decide⟩ }

/-- On the day before an overdue todo counts as an error a warning is no worse for it. -/
theorem process_no_worse_iff_sample :
    let log : List Change := [.add overdueTodo]
    let findings := [sampleFinding "no-trailing" .warning 1, sampleFinding "no-tabs" .warning 2]
    sample.Coherent (sampleLog log) log ∧
      ∃ told left,
        perform (sample.process "a.hbs" findings false false ⟨738009, by decide⟩)
          (sampleLog log) = (.ok told, left) ∧
        ∃ answer, told[1]? = some answer ∧ answer.severity.rank ≤ Severity.warning.rank ∧
          answer.severity = .warning := by
  intro log findings
  have coherent : sample.Coherent (sampleLog log) log := coherent_sampleLog log
  -- The todo has moved by a line, and only the second warning is of its rule.
  have own : (ownTodos (Todo.live log) "a.hbs" findings)[1]? = some (some overdueTodo) := by
    decide +kernel
  have onDay : overdueTodo.severityOn ⟨738009, by decide⟩ = .warning := by
    decide
  obtain ⟨_, told, left, done, each⟩ :=
    process_no_worse_iff coherent "a.hbs" findings false false ⟨738009, by decide⟩
  obtain ⟨answer, stands, _, noWorse, _, covered⟩ := each 1 _ rfl
  have weight := (covered overdueTodo own).2.2.2.2
  refine ⟨coherent, told, left, done, answer, stands, ?_, weight.trans onDay⟩
  refine noWorse.mpr fun todo has => ?_
  rw [own] at has
  obtain rfl : overdueTodo = todo := by simpa using has
  exact rank_severityOn_le_iff.mp (Nat.le_of_eq (congrArg Severity.rank onDay))

/-- On the day itself the warning comes back as an error. -/
theorem overdue_todo_worsens :
    let log : List Change := [.add overdueTodo]
    sample.Coherent (sampleLog log) log ∧
      (∃ left,
        perform (sample.process "a.hbs" [sampleFinding "no-tabs" .warning 2] false false
          ⟨738010, by decide⟩) (sampleLog log) =
            (.ok [sampleFinding "no-tabs" .error 2], left)) ∧
      ¬(sampleFinding "no-tabs" .error 2).severity.rank ≤
        (sampleFinding "no-tabs" .warning 2).severity.rank := by
  intro log
  have coherent : sample.Coherent (sampleLog log) log := coherent_sampleLog log
  -- The todo is past its date, so that its finding is reported as an error.
  have told : reported (Todo.live log) "a.hbs" [sampleFinding "no-tabs" .warning 2] false false
      ⟨738010, by decide⟩ = [sampleFinding "no-tabs" .error 2] := by
    decide +kernel
  obtain ⟨left, done, _⟩ := process_of_coherent coherent "a.hbs"
    [sampleFinding "no-tabs" .warning 2] false false ⟨738010, by decide⟩
  rw [told] at done
  exact ⟨coherent, ⟨left, done⟩, by decide⟩

end TodoStore

end TemplateLint
