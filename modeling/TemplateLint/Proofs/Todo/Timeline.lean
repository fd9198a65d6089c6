import TemplateLint.Proofs.Todo.Reconcile

/-!
How errors that are put off come back: each counts by the number of days since it was put off, as a
warning and as an error from the days on that its decay names, and a day past the last date never
comes.
-/

namespace TemplateLint

namespace Date

/-- A date some days later is that many days on. -/
theorem day_of_addDays? {first later : Date} {days : Nat}
    (reached : first.addDays? days = some later) : later.day = first.day + days := by
  unfold addDays? ofDay? at reached
  split at reached
  · rw [← Option.some.inj reached]
  · simp at reached

/-- No days later it is the same date. -/
theorem addDays?_zero (date : Date) : date.addDays? 0 = some date := by
  simp [addDays?, ofDay?, date.inRange]

/-- Where no date is some days later, that many days on lies past the last date. -/
theorem lastDay_lt_of_addDays? {first : Date} {days : Nat} (never : first.addDays? days = none) :
    Calendar.lastDay < first.day + days := by
  unfold addDays? ofDay? at never
  split at never
  · simp at never
  · rename_i outside
    have after := first.inRange.1
    -- Counted forward, a day leaves the dates at their end only.
    omega

/-- A date that is counted from a day has come exactly when as many days have passed since. -/
theorem any_isAtMost_addDays? {first today : Date} {days : Nat}
    (reached : first.addDays? days = some today) (count : Nat) :
    (first.addDays? count).any (·.isAtMost today) = decide (count ≤ days) := by
  have now := day_of_addDays? reached
  cases due : first.addDays? count with
  | some later =>
    have onDay := day_of_addDays? due
    show decide (later.day ≤ today.day) = decide (count ≤ days)
    apply decide_eq_decide.mpr
    omega
  | none =>
    -- Today is a date, so it is not as far on as a day past the last one.
    have beyond := lastDay_lt_of_addDays? due
    have within := today.inRange.2
    symm
    apply decide_eq_false
    omega

end Date

namespace Decay

/-- The severity of an error some days after it was put off. -/
def severityAfter (decay : Decay) (days : Nat) : Severity :=
  if decay.error.any (· ≤ days) then .error
  else if decay.warn.any (· ≤ days) then .warning
  else .todo

/-- A finding as it is told some days after its errors were put off. -/
def aged (decay : Decay) (days : Nat) (finding : Finding) : Finding :=
  if finding.severity = .error then { finding with severity := decay.severityAfter days }
  else finding

/-- A number of days that has passed stays passed. -/
theorem any_le_mono {limit : Option Nat} {days more : Nat} (later : days ≤ more)
    (passed : limit.any (· ≤ days) = true) : limit.any (· ≤ more) = true := by
  obtain ⟨count, same, within⟩ := (Option.any_eq_true _ _).mp passed
  rw [same]
  exact decide_eq_true (Nat.le_trans (of_decide_eq_true within) later)

/-- With the days the severity never gets milder. -/
theorem rank_severityAfter_mono (decay : Decay) {days more : Nat} (later : days ≤ more) :
    (decay.severityAfter days).rank ≤ (decay.severityAfter more).rank := by
  unfold severityAfter
  by_cases isError : decay.error.any (· ≤ days) = true
  · have stays := any_le_mono later isError
    simp [isError, stays]
  · rw [if_neg isError]
    by_cases isWarning : decay.warn.any (· ≤ days) = true
    · -- What was a warning is one still, or has come to be an error.
      rw [if_pos isWarning, if_pos (any_le_mono later isWarning)]
      split <;> decide
    · rw [if_neg isWarning]
      exact Nat.zero_le _

/-- Unless errors are put off for no days at all, none is an error on the day it is put off. -/
theorem severityAfter_zero {decay : Decay} (some : decay.error ≠ some 0) :
    decay.severityAfter 0 ≠ .error := by
  -- On the first day no limit has been reached but that of no days.
  have notYet : decay.error.any (· ≤ 0) = false := by
    cases limit : decay.error with
    | none => rfl
    | some count =>
      apply decide_eq_false
      intro none
      exact some (by rw [limit, Nat.le_zero.mp none])
  rw [severityAfter, notYet]
  simp only [Bool.false_eq_true, if_false]
  split <;> decide

end Decay

namespace Todo

/-- A todo that is made on a day counts by the days since. -/
theorem severityOn_ofFinding {first today : Date} {days : Nat}
    (reached : first.addDays? days = some today) (engine : String) (decay : Decay)
    (finding : Finding) :
    (ofFinding engine decay first finding).severityOn today = decay.severityAfter days := by
  -- Each of its two dates has come exactly when its number of days has passed.
  have come : ∀ limit : Option Nat,
      (limit.bind first.addDays?).any (·.isAtMost today) = limit.any (· ≤ days) := by
    intro limit
    cases limit with
    | none => rfl
    | some count => exact Date.any_isAtMost_addDays? reached count
  simp only [severityOn, ofFinding, come, Decay.severityAfter]

end Todo

namespace TodoStore

open Todo Effect Pairing

/-- What an update makes in a file without todos are all todos that the file has after it. -/
theorem todosIn_update_of_clear {store : TodoStore} {live : List Todo} {path : String}
    {findings : List Finding} (clear : todosIn live path = []) (separate : Separate path findings)
    (distinct : Distinct live) (decay : Decay) (today : Date) :
    todosIn (applyAll live ((store.fresh live path findings decay today).map .add ++
        (needless live path findings).map .remove)) path =
      store.fresh live path findings decay today := by
  rw [todosIn_update separate distinct, clear]
  rfl

/-- Where all todos of a file count the same, its errors are told so and other findings as they are. -/
theorem reported_eq_aged {live : List Todo} {path : String} {findings reported : List Finding}
    {today : Date} (byTodos : ReportedByTodos live path findings today reported) {decay : Decay}
    {days : Nat}
    (each : ∀ todo ∈ todosIn live path, todo.severityOn today = decay.severityAfter days) :
    reported = findings.map (decay.aged days) := by
  obtain ⟨owns, sized, rfl, _, known, covering⟩ := byTodos
  have alone : (findings.zip owns).map Prod.fst = findings :=
    List.map_fst_zip (Nat.le_of_eq sized.symm)
  -- Both lists are read off the findings, each beside its todo.
  rw [← List.map_uncurry_zip_eq_zipWith, ← congrArg (List.map (decay.aged days)) alone,
    List.map_map]
  apply List.map_congr_left
  rintro ⟨finding, own⟩ member
  have covered := covering finding own member
  show coverWith today finding own = decay.aged days finding
  unfold Decay.aged
  split at covered
  · -- An error has a todo of its own, which is one of the file's.
    rename_i isError
    obtain ⟨todo, rfl, _⟩ := covered
    rw [if_pos isError, coverWith, each todo (mem_todosIn_of_paired known member)]
  · rename_i noError
    rw [if_neg noError, covered, coverWith]

/--
Errors that are put off in a file without todos count by the days since, on the same store or on
one opened anew. Any number of days later each is told with the severity that its decay gives it
then, and every other finding as it is, whichever flags are set and without touching the disk. The
severity never gets milder with the days.
-/
theorem update_decays {store : TodoStore} {memory updated : TodoMemory} {changes : List Change}
    (coherent : store.Coherent memory changes) {path : String} {findings : List Finding}
    (clear : todosIn (Todo.live changes) path = []) (separate : Separate path findings)
    (uniform : Uniform findings) {decay : Decay} {first : Date} {counts : TodoCounts}
    (update : perform (store.update path findings decay false first) memory =
      (.ok counts, updated)) :
    (∀ later laterMemory, (later = store ∧ laterMemory = updated) ∨
        (later.directory = store.directory ∧ laterMemory = updated.fresh) →
      ∀ days today, first.addDays? days = some today → ∀ cleanup overriding, ∃ left,
        perform (later.process path findings cleanup overriding today) laterMemory =
            (.ok (findings.map (decay.aged days)), left) ∧
          left.files = updated.files) ∧
      ∀ days more, days ≤ more →
        (decay.severityAfter days).rank ≤ (decay.severityAfter more).rank := by
  refine ⟨?_, fun _ _ => decay.rank_severityAfter_mono⟩
  obtain ⟨recorded, kept, live, settled⟩ := settled_of_perform_update coherent separate update
  intro later laterMemory same days today reached cleanup overriding
  obtain ⟨coherentNow, files⟩ := coherent_later kept same
  obtain ⟨reported, outcome, byTodos⟩ :=
    perform_process_of_settled coherentNow settled uniform cleanup overriding today
  -- All todos of the file were made on the first day, so all count the same by now.
  have each : ∀ todo ∈ todosIn (Todo.live recorded) path,
      todo.severityOn today = decay.severityAfter days := by
    intro todo member
    rw [live, todosIn_update_of_clear clear separate (distinct_live changes)] at member
    obtain ⟨finding, _, rfl⟩ := List.mem_map.mp member
    exact severityOn_ofFinding reached store.engine decay finding
  obtain rfl := reported_eq_aged byTodos each
  exact ⟨_, outcome, files⟩

/-- Errors come back as warnings after five days, and as errors on no day that has a date. -/
theorem update_decays_sample :
    let log : List Change := [.add { sampleTodo 1 with filePath := "b.hbs" }]
    let decay : Decay := ⟨some 5, some 4294967295⟩
    sample.Coherent (sampleLog log) log ∧ todosIn (Todo.live log) "a.hbs" = [] ∧
      Separate "a.hbs" sampleFindings ∧ Uniform sampleFindings ∧
      (⟨738000, by decide⟩ : Date).addDays? 4294967295 = none ∧
      ∃ counts updated,
        perform (sample.update "a.hbs" sampleFindings decay false ⟨738000, by decide⟩)
          (sampleLog log) = (.ok counts, updated) ∧
        (∃ left,
          perform (sample.process "a.hbs" sampleFindings false false ⟨738004, by decide⟩)
            updated.fresh = (.ok [sampleFinding "no-tabs" .todo 2,
              sampleFinding "no-trailing" .warning 2, sampleFinding "no-tabs" .todo 3], left)) ∧
        ∃ left,
          perform (sample.process "a.hbs" sampleFindings false false ⟨738005, by decide⟩)
            updated.fresh = (.ok [sampleFinding "no-tabs" .warning 2,
              sampleFinding "no-trailing" .warning 2, sampleFinding "no-tabs" .warning 3], left) := by
  intro log decay
  have coherent : sample.Coherent (sampleLog log) log := coherent_sampleLog log
  have clear : todosIn (Todo.live log) "a.hbs" = [] := by decide +kernel
  have separate : Separate "a.hbs" sampleFindings := ⟨by decide +kernel, by decide +kernel⟩
  have uniform : Uniform sampleFindings := by unfold Uniform; decide +kernel
  -- The log is a file, so the update succeeds; what is told later follows from the theorem.
  obtain ⟨updated, update⟩ := perform_update_of_isFile coherent rfl "a.hbs" sampleFindings decay
    false ⟨738000, by decide⟩
  obtain ⟨told, _⟩ := update_decays coherent clear separate uniform update
  obtain ⟨fourth, four, _⟩ := told sample updated.fresh (.inr ⟨rfl, rfl⟩) 4
    ⟨738004, by decide⟩ (by decide) false false
  obtain ⟨fifth, five, _⟩ := told sample updated.fresh (.inr ⟨rfl, rfl⟩) 5
    ⟨738005, by decide⟩ (by decide) false false
  exact ⟨coherent, clear, separate, uniform, by decide, _, updated, update, ⟨fourth, four⟩,
    fifth, five⟩

end TodoStore

end TemplateLint
