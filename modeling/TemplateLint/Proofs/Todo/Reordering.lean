import TemplateLint.Proofs.Todo.Conservation

/-!
The order in which the findings of a file come decides which of them has which todo, but not which
todos are taken, how many findings of every kind are left without one, and so what is counted and
what is written to the log.
-/

namespace TemplateLint

/-- All of a finding that the counts depend on. -/
def Finding.weight (finding : Finding) : Severity × Bool :=
  (finding.severity, finding.isFixable)

namespace Summary

/-- The counts with one more finding of a weight. -/
def tally (summary : Summary) (weight : Severity × Bool) : Summary :=
  summary.add { (default : Finding) with severity := weight.1, isFixable := weight.2 }

/-- The counts over findings are those over their weights. -/
theorem ofFindings_eq (findings : List Finding) :
    ofFindings findings = (findings.map Finding.weight).foldl tally zero := by
  rw [List.foldl_map]
  rfl

/-- Findings of the same weights in any order have the same counts. -/
theorem ofFindings_eq_of_weights {findings others : List Finding}
    (same : (findings.map Finding.weight).Perm (others.map Finding.weight)) :
    ofFindings findings = ofFindings others := by
  rw [ofFindings_eq, ofFindings_eq]
  apply same.foldl_eq'
  -- Each weight adds to counts of its own, so two of them may be added in either order.
  intro first _ second _ summary
  obtain ⟨severity, fixable⟩ := first
  obtain ⟨otherSeverity, otherFixable⟩ := second
  cases severity <;> cases otherSeverity <;> simp [tally, add] <;> omega

end Summary

namespace Pairing

/-- The marks of what is taken, once the first free todo that satisfies the test is taken too. -/
def mark (test : Todo → Bool) (todos : List Todo) (taken : List Bool) : List Bool :=
  match firstFree test 0 todos taken with
  | some position => taken.set position true
  | none => taken

/-- Where a todo is taken that does not satisfy the test, the first free one that does is the same. -/
theorem firstFree_set {test : Todo → Bool} {todos : List Todo} {position : Nat}
    (unfit : ∀ todo, todos[position]? = some todo → test todo = false) (start : Nat)
    (taken : List Bool) :
    firstFree test start todos (taken.set position true) = firstFree test start todos taken := by
  induction todos generalizing start taken position with
  | nil => rfl
  | cons todo later ih =>
    cases taken with
    | nil => rfl
    | cons used others =>
      cases position with
      | zero =>
        -- The first one is passed over either way: taken it is not free, and free it does not fit.
        have first : test todo = false := unfit todo rfl
        simp [firstFree, first]
      | succ position =>
        have rest := ih (fun other named => unfit other (by simpa using named)) (start + 1) others
        simp only [List.set_cons_succ, firstFree, rest]

/-- To take a todo for a test is no loss for another test that no todo satisfies with it. -/
theorem firstFree_of_disjoint {test other : Todo → Bool}
    (disjoint : ∀ todo, test todo = true → other todo = false) {todos : List Todo}
    {taken : List Bool} {position : Nat} (first : firstFree test 0 todos taken = some position) :
    firstFree other 0 todos (taken.set position true) = firstFree other 0 todos taken := by
  obtain ⟨place, todo, same, named, _, fits⟩ := firstFree_some first
  obtain rfl : position = place := by omega
  apply firstFree_set
  intro again namedAgain
  -- At the position stands the todo that satisfies the first test, and so not the other.
  rw [named] at namedAgain
  rw [← Option.some.inj namedAgain]
  exact disjoint todo fits

/-- Where no todo satisfies both tests, it does not matter for which of them one is taken first. -/
theorem mark_comm {test other : Todo → Bool}
    (disjoint : ∀ todo, test todo = true → other todo = false) (todos : List Todo)
    (taken : List Bool) :
    mark other todos (mark test todos taken) = mark test todos (mark other todos taken) := by
  have apart : ∀ todo, other todo = true → test todo = false := by
    intro todo fits
    cases also : test todo with
    | true => simp [disjoint todo also] at fits
    | false => rfl
  -- What is taken for either test leaves the first free todo for the other one.
  cases first : firstFree test 0 todos taken with
  | none =>
    cases second : firstFree other 0 todos taken with
    | none => simp [mark, first, second]
    | some place => simp [mark, first, second, firstFree_of_disjoint apart second]
  | some position =>
    cases second : firstFree other 0 todos taken with
    | none => simp [mark, first, second, firstFree_of_disjoint disjoint first]
    | some place =>
      simp only [mark, first, second, firstFree_of_disjoint disjoint first,
        firstFree_of_disjoint apart second]
      -- Both todos are marked in the end.
      by_cases same : position = place
      · rw [same]
      · exact List.set_comm true true same

/-- A pass takes a todo for each finding that has none yet, one after another. -/
theorem taken_pass (test : Todo → Finding → Bool) (todos : List Todo) {findings : List Finding}
    {assigned : List (Option Nat)} (sized : assigned.length = findings.length)
    (taken : List Bool) :
    (pass test todos findings assigned taken).taken =
      (uncovered findings assigned).foldl (fun marks finding => mark (test · finding) todos marks)
        taken := by
  -- The induction is on the findings, each with what was given to it before the pass.
  induction findings generalizing assigned taken with
  | nil =>
    obtain rfl : assigned = [] := List.length_eq_zero_iff.mp sized
    rfl
  | cons finding findings ih =>
    cases assigned with
    | nil => simp at sized
    | cons own assigned =>
      simp only [List.length_cons, Nat.add_right_cancel_iff] at sized
      cases own with
      | some position => exact ih sized taken
      | none =>
        rw [uncovered_cons_none, List.foldl_cons, ← ih sized]
        -- The finding takes the first free todo that fits, or there is none.
        cases first : firstFree (test · finding) 0 todos taken <;> simp only [pass, mark, first]

/-- Todos that are taken for keys may be taken for these keys in any order. -/
theorem foldl_mark_perm {Key : Type} [DecidableEq Key] (keyOf : Todo → Key) (todos : List Todo)
    {keys others : List Key} (same : keys.Perm others) (taken : List Bool) :
    keys.foldl (fun marks key => mark (fun todo => decide (keyOf todo = key)) todos marks) taken =
      others.foldl (fun marks key => mark (fun todo => decide (keyOf todo = key)) todos marks)
        taken := by
  apply same.foldl_eq'
  intro first _ second _ marks
  by_cases equal : first = second
  · rw [equal]
  · -- A todo has one key only.
    apply mark_comm
    intro todo fits
    rw [of_decide_eq_true fits]
    exact decide_eq_false equal

/-- What a pass takes depends only on the keys of the findings that have no todo yet. -/
theorem taken_pass_perm {Key : Type} [DecidableEq Key] (test : Todo → Finding → Bool)
    {keyOf : Todo → Key} {key : Finding → Key}
    (keyed : ∀ todo finding, test todo finding = true ↔ keyOf todo = key finding)
    (todos : List Todo) {findings others : List Finding} {assigned otherAssigned : List (Option Nat)}
    (sized : assigned.length = findings.length) (otherSized : otherAssigned.length = others.length)
    (same : ((uncovered findings assigned).map key).Perm ((uncovered others otherAssigned).map key))
    (taken : List Bool) :
    (pass test todos findings assigned taken).taken =
      (pass test todos others otherAssigned taken).taken := by
  have byKey : ∀ finding, (test · finding) = fun todo => decide (keyOf todo = key finding) := by
    intro finding
    funext todo
    exact Bool.eq_iff_iff.mpr ((keyed todo finding).trans decide_eq_true_iff.symm)
  -- What is taken depends on the findings only through their keys, whose order does not matter.
  have keys := foldl_mark_perm keyOf todos same taken
  rw [List.foldl_map, List.foldl_map] at keys
  rw [taken_pass test todos sized, taken_pass test todos otherSized]
  simpa only [byKey] using keys

/--
As many findings of every kin are left without a todo, whatever their order, as long as the same
todos are taken and as many of every kin as findings have one.
-/
theorem uncovered_perm {todos : List Todo} {findings others : List Finding}
    {assigned otherAssigned : List (Option Nat)} {taken : List Bool} (same : findings.Perm others)
    (sized : assigned.length = findings.length) (otherSized : otherAssigned.length = others.length)
    (balance : ∀ kin, todosOfKin kin (used todos taken) =
      findingsOfKin kin (covered findings assigned))
    (otherBalance : ∀ kin, todosOfKin kin (used todos taken) =
      findingsOfKin kin (covered others otherAssigned)) :
    ((uncovered findings assigned).map Finding.kin).Perm
      ((uncovered others otherAssigned).map Finding.kin) := by
  apply List.perm_iff_count.mpr
  intro kin
  have counted : ∀ list : List Finding, (list.map Finding.kin).count kin =
      findingsOfKin kin list := by
    intro list
    rw [List.count, List.countP_map, findingsOfKin]
    exact List.countP_congr fun finding _ => by simp
  -- Of as many findings of the kin as many have a todo, so as many are left.
  have all : findingsOfKin kin findings = findingsOfKin kin others := same.countP_eq _
  have parts := covered_add_uncovered kin sized
  have otherParts := covered_add_uncovered kin otherSized
  have given := balance kin
  have otherGiven := otherBalance kin
  rw [counted, counted]
  omega

/-- Before any pass all findings are without a todo. -/
theorem uncovered_nothing (findings : List Finding) :
    uncovered findings (findings.map fun _ => none) = findings := by
  induction findings with
  | nil => rfl
  | cons finding later ih => rw [List.map_cons, uncovered_cons_none, ih]

/-- Exact matches of findings in another order take the same todos. -/
theorem taken_exactly_of_perm (todos : List Todo) {findings others : List Finding}
    (same : findings.Perm others) :
    (exactly todos findings).taken = (exactly todos others).taken := by
  apply taken_pass_perm Todo.matchesExactly (fun _ _ => Todo.matchesExactly_iff) todos
    (List.length_map _) (List.length_map _)
  -- The pass begins with all findings, and so with the same spots.
  rw [uncovered_nothing, uncovered_nothing]
  exact same.map Finding.spot

/-- Findings in another order take the same todos. -/
theorem taken_of_perm (todos : List Todo) {findings others : List Finding}
    (same : findings.Perm others) : (of todos findings).taken = (of todos others).taken := by
  have sized := (passed_exactly todos findings).length_assigned
  have otherSized := (passed_exactly todos others).length_assigned
  have first := taken_exactly_of_perm todos same
  have otherBalance := balance_exactly todos others
  rw [← first] at otherBalance
  -- As many findings of every kin are left to the loose pass, which tells nothing but kins apart.
  have left := uncovered_perm same sized otherSized (balance_exactly todos findings) otherBalance
  have second := taken_pass_perm Todo.matchesLoosely (fun _ _ => Todo.matchesLoosely_iff) todos
    sized otherSized left (exactly todos findings).taken
  rw [first] at second
  show (pass _ _ _ _ (exactly todos findings).taken).taken = (pass _ _ _ _ _).taken
  rw [first]
  exact second

/-- Of findings in another order as many of every kin are left without a todo. -/
theorem uncovered_of_perm (todos : List Todo) {findings others : List Finding}
    (same : findings.Perm others) :
    ((uncovered findings (of todos findings).assigned).map Finding.kin).Perm
      ((uncovered others (of todos others).assigned).map Finding.kin) := by
  have otherBalance := balance_of todos others
  rw [← taken_of_perm todos same] at otherBalance
  exact uncovered_perm same (length_of todos findings).1 (length_of todos others).1
    (balance_of todos findings) otherBalance

end Pairing

namespace TodoStore

open Todo Effect Pairing

/-- All findings of a rule weigh the same. -/
def Alike (findings : List Finding) : Prop :=
  ∀ one ∈ findings, ∀ other ∈ findings, one.rule = other.rule →
    one.severity = other.severity ∧ one.isFixable = other.isFixable

/-- Findings that weigh the same by their rule do so by what the rule is. -/
theorem Alike.exists_weight {findings : List Finding} (alike : Alike findings) :
    ∃ byRule : String → Severity × Bool,
      ∀ finding ∈ findings, finding.weight = byRule finding.rule := by
  -- Any finding of a rule tells the weight of all others.
  refine ⟨fun rule => ((findings.find? (·.rule = rule)).map Finding.weight).getD default, ?_⟩
  intro finding member
  cases found : findings.find? (·.rule = finding.rule) with
  | none =>
    have never := List.find?_eq_none.mp found finding member
    simp at never
  | some other =>
    have rules : other.rule = finding.rule := by simpa using List.find?_some found
    obtain ⟨severity, fixable⟩ := alike other (List.mem_of_find?_eq_some found) finding member rules
    show (finding.severity, finding.isFixable) =
      ((findings.find? (·.rule = finding.rule)).map Finding.weight).getD default
    rw [found, ← severity, ← fixable]
    rfl

/-- Where weights go by the rules, those of covered findings go by their todos and by the rest. -/
theorem weights_cover {byRule : String → Severity × Bool} {todos : List Todo}
    {findings : List Finding} {assigned : List (Option Nat)}
    (sized : assigned.length = findings.length)
    (uniform : ∀ finding ∈ findings, finding.weight = byRule finding.rule)
    (akin : ∀ finding position, (finding, some position) ∈ findings.zip assigned →
      ∃ todo, todos[position]? = some todo ∧ todo.kin = finding.kin) (today : Date) :
    ((findings.zipWith (cover todos today) assigned).map Finding.weight).Perm
      (((given assigned).filterMap (todos[·]?)).map
          (fun todo => (todo.severityOn today, (byRule todo.rule).2)) ++
        ((uncovered findings assigned).map Finding.kin).map fun kin => byRule kin.1) := by
  -- The induction is on the findings, each with what was given to it.
  induction findings generalizing assigned with
  | nil =>
    obtain rfl : assigned = [] := List.length_eq_zero_iff.mp sized
    exact .nil
  | cons finding findings ih =>
    cases assigned with
    | nil => simp at sized
    | cons own assigned =>
      have first := uniform finding List.mem_cons_self
      have rest := ih (by simpa using sized)
        (fun other member => uniform other (List.mem_cons_of_mem _ member))
        (fun other position member => akin other position (List.mem_cons_of_mem _ member))
      cases own with
      | some position =>
        -- It counts as its todo does, and is as fixable as any finding of the todo's rule.
        obtain ⟨todo, named, same⟩ := akin finding position List.mem_cons_self
        have rules : todo.rule = finding.rule := congrArg (·.1) same
        have weight : (cover todos today finding (some position)).weight =
            (todo.severityOn today, (byRule todo.rule).2) := by
          simp [cover, named, Finding.weight, rules, ← first]
        rw [List.zipWith_cons_cons, List.map_cons, weight, given_cons_some,
          List.filterMap_cons_some named, uncovered_cons_some]
        exact rest.cons _
      | none =>
        rw [List.zipWith_cons_cons, List.map_cons, given_cons_none, uncovered_cons_none]
        show (finding.weight :: _).Perm (_ ++ byRule finding.rule :: _)
        rw [first]
        exact (rest.cons _).trans List.perm_middle.symm

section Reordered

variable {findings others : List Finding}

/-- The same todos are stale, whatever the order of the findings. -/
theorem stale_of_perm (same : findings.Perm others) (live : List Todo) (path : String) :
    stale live path findings = stale live path others := by
  rw [stale, taken_of_perm _ same, stale]

/-- The findings have the same todos between them, whatever their order. -/
theorem given_of_perm (same : findings.Perm others) (todos : List Todo) :
    ((given (of todos findings).assigned).filterMap (todos[·]?)).Perm
      ((given (of todos others).assigned).filterMap (todos[·]?)) := by
  -- They are all todos but for those that no finding has.
  have all := given_append_unmatched todos findings
  have otherAll := given_append_unmatched todos others
  rw [unmatched, taken_of_perm todos same] at all
  exact (List.perm_append_right_iff _).mp (all.trans otherAll.symm)

/-- What is reported counts the same, whatever the order of the findings. -/
theorem summary_of_perm (same : findings.Perm others) (alike : Alike findings) (live : List Todo)
    (path : String) (cleanup overriding : Bool) (today : Date) :
    Summary.ofFindings (reported live path findings cleanup overriding today) =
      Summary.ofFindings (reported live path others cleanup overriding today) := by
  obtain ⟨byRule, uniform⟩ := alike.exists_weight
  have otherUniform : ∀ finding ∈ others, finding.weight = byRule finding.rule :=
    fun finding member => uniform finding (same.mem_iff.mpr member)
  have weights := weights_cover (length_of (todosIn live path) findings).1 uniform
    (fun _ _ => kin_of_assigned) today
  have otherWeights := weights_cover (length_of (todosIn live path) others).1 otherUniform
    (fun _ _ => kin_of_assigned) today
  -- The todos that count and the kinds of the findings that are left are the same.
  have between := ((given_of_perm same (todosIn live path)).map fun todo =>
      (todo.severityOn today, (byRule todo.rule).2)).append
    ((uncovered_of_perm (todosIn live path) same).map fun kin => byRule kin.1)
  have covered := weights.trans (between.trans otherWeights.symm)
  apply Summary.ofFindings_eq_of_weights
  rw [reported_eq, reported_eq, stale_of_perm same]
  split
  · exact covered
  · rw [List.map_append, List.map_append]
    exact covered.append_right _

/-- The errors are the same in another order. -/
theorem errorsOf_perm (same : findings.Perm others) :
    (errorsOf findings).Perm (errorsOf others) :=
  same.filter _

/-- As many todos are made, whatever the order of the findings. -/
theorem length_fresh_of_perm (same : findings.Perm others) (store : TodoStore) (live : List Todo)
    (path : String) (decay : Decay) (today : Date) :
    (store.fresh live path findings decay today).length =
      (store.fresh live path others decay today).length := by
  have left := (uncovered_of_perm (todosIn live path) (errorsOf_perm same)).length_eq
  rw [List.length_map, List.length_map] at left
  rw [fresh, List.length_map, left, fresh, List.length_map]

end Reordered

/-- What an update writes: todos that are made, and then entries that drop these live ones. -/
def Dropped (store : TodoStore) (changes : List Change) (counts : TodoCounts)
    (dropped : List Todo) (left : TodoMemory) : Prop :=
  ∃ made : List Todo,
    counts = ⟨made.length, dropped.length⟩ ∧
    store.Coherent left (changes ++ (made.map .add ++ dropped.map .remove)) ∧
    ∀ todo ∈ Todo.live changes,
      todo ∈ Todo.live (changes ++ (made.map .add ++ dropped.map .remove)) ↔ todo ∉ dropped

/-- An update whose entries are added drops just the todos that it means to drop. -/
theorem dropped_of_appended {store : TodoStore} {memory left : TodoMemory} {changes : List Change}
    {made dropped : List Todo} (within : dropped ⊆ Todo.live changes)
    (appended : store.Appended memory changes (made.map .add ++ dropped.map .remove) left) :
    store.Dropped changes ⟨made.length, dropped.length⟩ dropped left := by
  refine ⟨made, rfl, appended.coherent, fun todo isLive => ?_⟩
  rw [live_append]
  exact mem_applyAll_iff (distinct_live changes) within made isLive

/-- An update answers the same and drops the same todos, whatever the order of the findings. -/
theorem update_of_perm {store : TodoStore} {memory : TodoMemory} {changes : List Change}
    (coherent : store.Coherent memory changes) {findings others : List Finding}
    (same : findings.Perm others) (path : String) (decay : Decay) (overriding : Bool)
    (today : Date) :
    ∃ answer left otherLeft,
      perform (store.update path findings decay overriding today) memory = (answer, left) ∧
      perform (store.update path others decay overriding today) memory = (answer, otherLeft) ∧
      ∀ counts, answer = .ok counts → ∃ dropped,
        store.Dropped changes counts dropped left ∧
        store.Dropped changes counts dropped otherLeft := by
  have size := length_fresh_of_perm same store (Todo.live changes) path decay today
  have needs : needless (Todo.live changes) path findings =
      needless (Todo.live changes) path others :=
    stale_of_perm (errorsOf_perm same) (Todo.live changes) path
  rw [perform_update_eq coherent, perform_update_eq coherent, ← needs, ← size]
  generalize store.fresh (Todo.live changes) path findings decay today = made at size ⊢
  generalize store.fresh (Todo.live changes) path others decay today = otherMade at size ⊢
  have within : (if overriding then [] else needless (Todo.live changes) path findings) ⊆
      Todo.live changes := by
    cases overriding with
    | true => exact List.nil_subset _
    | false => exact stale_subset
  generalize (if overriding then [] else needless (Todo.live changes) path findings) = dropped
    at within ⊢
  -- As many entries are added, and so both times there are some or none.
  have alike : made.map Change.add ++ dropped.map .remove = [] ↔
      otherMade.map Change.add ++ dropped.map .remove = [] := by
    simp only [← List.length_eq_zero_iff, List.length_append, List.length_map, size]
  rcases append_alike (coherent_loaded coherent) alike with
    ⟨left, otherLeft, done, otherDone, appended, otherAppended⟩ | ⟨error, refused, otherRefused⟩
  · refine ⟨_, left, otherLeft, by rw [done, mapAnswer_ok], by rw [otherDone, mapAnswer_ok], ?_⟩
    intro counts answer
    obtain rfl := Except.ok.inj answer
    have otherDropped := dropped_of_appended within (appended_of_loaded otherAppended)
    rw [← size] at otherDropped
    exact ⟨dropped, dropped_of_appended within (appended_of_loaded appended), otherDropped⟩
  · refine ⟨.error error, _, _, by rw [refused, mapAnswer_error],
      by rw [otherRefused, mapAnswer_error], ?_⟩
    intro counts never
    exact nomatch never

/--
Findings of which all that are of one rule weigh the same may be told in any order. Held against
the todos of their file they give the same counts and leave the very same log and memory behind,
and an update with them answers the same, making as many todos and dropping the same ones.
-/
theorem order_of_findings_irrelevant {store : TodoStore} {memory : TodoMemory}
    {changes : List Change} (coherent : store.Coherent memory changes)
    {findings others : List Finding} (same : findings.Perm others) (alike : Alike findings)
    (path : String) (overriding : Bool) (today : Date) :
    (∀ cleanup, ∃ messages otherMessages left,
      perform (store.process path findings cleanup overriding today) memory =
        (.ok messages, left) ∧
      perform (store.process path others cleanup overriding today) memory =
        (.ok otherMessages, left) ∧
      Summary.ofFindings messages = Summary.ofFindings otherMessages) ∧
    ∀ decay, ∃ answer left otherLeft,
      perform (store.update path findings decay overriding today) memory = (answer, left) ∧
      perform (store.update path others decay overriding today) memory = (answer, otherLeft) ∧
      ∀ counts, answer = .ok counts → ∃ dropped,
        store.Dropped changes counts dropped left ∧
        store.Dropped changes counts dropped otherLeft := by
  refine ⟨?_, fun decay => update_of_perm coherent same path decay overriding today⟩
  intro cleanup
  obtain ⟨left, done, _⟩ := appended_of_ready (coherent_loaded coherent)
    (ready_cleanup coherent path findings cleanup overriding)
  -- The entries that are added are the very same ones, and so is all that they leave.
  have entries : cleanupChanges (Todo.live changes) path findings cleanup overriding =
      cleanupChanges (Todo.live changes) path others cleanup overriding := by
    rw [cleanupChanges_eq, cleanupChanges_eq, stale_of_perm same]
  refine ⟨_, _, left, ?_, ?_,
    summary_of_perm same alike (Todo.live changes) path cleanup overriding today⟩
  · rw [perform_process coherent, done, mapAnswer_ok]
  · rw [perform_process coherent, ← entries, done, mapAnswer_ok]

/--
Of two findings of one text the one that is told first has the todo, and in either order the todo
of another text is dropped.
-/
theorem order_of_findings_irrelevant_sample :
    let log : List Change := [.add (sampleTodo 1), .add { sampleTodo 1 with source := "  " }]
    sample.Coherent (sampleLog log) log ∧ sampleFindings.Perm sampleFindings.reverse ∧
      Alike sampleFindings ∧
      (∃ left,
        perform (sample.process "a.hbs" sampleFindings true false ⟨738001, by decide⟩)
          (sampleLog log) = (.ok [sampleFinding "no-tabs" .todo 2,
            sampleFinding "no-trailing" .warning 2, sampleFinding "no-tabs" .error 3], left) ∧
        perform (sample.process "a.hbs" sampleFindings.reverse true false ⟨738001, by decide⟩)
          (sampleLog log) = (.ok [sampleFinding "no-tabs" .todo 3,
            sampleFinding "no-trailing" .warning 2, sampleFinding "no-tabs" .error 2], left)) ∧
      ∃ left otherLeft dropped,
        perform (sample.update "a.hbs" sampleFindings .never false ⟨738001, by decide⟩)
          (sampleLog log) = (.ok ⟨1, 1⟩, left) ∧
        perform (sample.update "a.hbs" sampleFindings.reverse .never false ⟨738001, by decide⟩)
          (sampleLog log) = (.ok ⟨1, 1⟩, otherLeft) ∧
        sample.Dropped log ⟨1, 1⟩ dropped left ∧ sample.Dropped log ⟨1, 1⟩ dropped otherLeft := by
  intro log
  have same : sampleFindings.Perm sampleFindings.reverse := (List.reverse_perm _).symm
  have alike : Alike sampleFindings := by unfold Alike; decide +kernel
  have coherent : sample.Coherent (sampleLog log) log := coherent_sampleLog log
  obtain ⟨processes, updates⟩ := order_of_findings_irrelevant coherent same alike "a.hbs" false
    ⟨738001, by decide⟩
  obtain ⟨messages, otherMessages, left, done, otherDone, _⟩ := processes true
  obtain ⟨answer, updated, otherUpdated, update, otherUpdate, drops⟩ := updates .never
  -- What is told and counted is computed; that the same is left behind follows from the theorem.
  have told : reported (Todo.live log) "a.hbs" sampleFindings true false ⟨738001, by decide⟩ =
      [sampleFinding "no-tabs" .todo 2, sampleFinding "no-trailing" .warning 2,
        sampleFinding "no-tabs" .error 3] := by
    decide +kernel
  have otherTold : reported (Todo.live log) "a.hbs" sampleFindings.reverse true false
      ⟨738001, by decide⟩ = [sampleFinding "no-tabs" .todo 3,
        sampleFinding "no-trailing" .warning 2, sampleFinding "no-tabs" .error 2] := by
    decide +kernel
  have counted : (sample.fresh (Todo.live log) "a.hbs" sampleFindings .never
      ⟨738001, by decide⟩).length = 1 ∧
        (needless (Todo.live log) "a.hbs" sampleFindings).length = 1 := by
    decide +kernel
  obtain ⟨_, again, _⟩ := process_of_coherent coherent "a.hbs" sampleFindings true false
    ⟨738001, by decide⟩
  obtain ⟨_, otherAgain, _⟩ := process_of_coherent coherent "a.hbs" sampleFindings.reverse true
    false ⟨738001, by decide⟩
  obtain ⟨_, counts⟩ := perform_update_of_isFile coherent rfl "a.hbs" sampleFindings .never false
    ⟨738001, by decide⟩
  simp only [Bool.false_eq_true, if_false, counted.1, counted.2] at counts
  obtain rfl : messages = _ := Except.ok.inj (Prod.mk.inj (done.symm.trans again)).1
  obtain rfl : otherMessages = _ := Except.ok.inj (Prod.mk.inj (otherDone.symm.trans otherAgain)).1
  obtain rfl : answer = _ := (Prod.mk.inj (update.symm.trans counts)).1
  rw [told] at done
  rw [otherTold] at otherDone
  obtain ⟨dropped, first, second⟩ := drops _ rfl
  exact ⟨coherent, same, alike, ⟨left, done, otherDone⟩, updated, otherUpdated, dropped, update,
    otherUpdate, first, second⟩

end TodoStore

end TemplateLint
