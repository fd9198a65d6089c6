import Mathlib.Data.List.Dedup
import TemplateLint.Proofs.Todo.Optimal

/-!
What an update keeps, makes and drops, counted for every rule and text that breaks it: a todo that is
kept is kept as it is, so the day on which it counts again is never put off.
-/

namespace TemplateLint

/-- The rule that a todo puts off, and the text that breaks it. -/
def Todo.breach (todo : Todo) : String × String :=
  (todo.rule, todo.source)

/-- The rule that a finding is about, and the text that breaks it. -/
def Finding.breach (finding : Finding) : String × String :=
  (finding.rule, finding.source)

section Classes

variable {α κ : Type} [DecidableEq κ]

/-- Items are as many as there are in all their classes together. -/
theorem sum_countP (key : α → κ) {classes : List κ} (once : classes.Nodup) {items : List α}
    (all : ∀ item ∈ items, key item ∈ classes) :
    (classes.map fun own => items.countP (key · = own)).sum = items.length := by
  -- The induction is on the classes: what is of the first counts there, and the rest later.
  induction classes generalizing items with
  | nil =>
    cases items with
    | nil => rfl
    | cons item later => simpa using all item
  | cons first rest ih =>
    obtain ⟨apart, restOnce⟩ := List.nodup_cons.mp once
    have others := @ih restOnce (items.filter (key · ≠ first)) fun item member => by
      obtain ⟨inside, other⟩ := List.mem_filter.mp member
      exact (List.mem_cons.mp (all item inside)).resolve_left (by simpa using other)
    have unchanged : (rest.map fun own => (items.filter (key · ≠ first)).countP (key · = own)) =
        rest.map fun own => items.countP (key · = own) := by
      refine List.map_congr_left fun own member => ?_
      rw [List.countP_filter]
      refine List.countP_congr fun item _ => ?_
      have differs : own ≠ first := fun same => apart (same ▸ member)
      simp only [ne_eq, decide_not, Bool.and_eq_true, decide_eq_true_eq, Bool.not_eq_true',
        decide_eq_false_iff_not, and_iff_left_iff_imp]
      exact fun same other => differs (same.symm.trans other)
    rw [unchanged] at others
    rw [List.map_cons, List.sum_cons, others, List.countP_eq_length_filter,
      List.length_eq_length_filter_add (l := items) (key · = first)]
    simp

end Classes

namespace TodoStore

open Todo Effect Pairing

/-- How many live todos a file has of a breach. -/
def todosOfBreach (live : List Todo) (path : String) (breach : String × String) : Nat :=
  (todosIn live path).countP (·.breach = breach)

/-- How many errors there are of a breach. -/
def errorsOfBreach (findings : List Finding) (breach : String × String) : Nat :=
  (errorsOf findings).countP (·.breach = breach)

/-- Each breach of which a file has a live todo or an error. -/
def breaches (live : List Todo) (path : String) (findings : List Finding) :
    List (String × String) :=
  ((todosIn live path).map Todo.breach ++ (errorsOf findings).map Finding.breach).dedup

variable {store : TodoStore} {live : List Todo} {path : String} {findings : List Finding}

/-- What todos and errors of a breach have in common in a file. -/
def kinOf (path : String) (breach : String × String) : String × String × String :=
  (breach.1, storageKey path, breach.2)

/-- In a file the todos of a breach are those of a kin. -/
theorem countP_breach_todos {todos : List Todo}
    (inFile : ∀ todo ∈ todos, storageKey todo.filePath = storageKey path)
    (breach : String × String) :
    todos.countP (·.breach = breach) = todosOfKin (kinOf path breach) todos := by
  refine List.countP_congr fun todo member => ?_
  simp [Todo.breach, Todo.kin, kinOf, inFile todo member, Prod.ext_iff]

/-- In a file the findings of a breach are those of a kin. -/
theorem countP_breach_findings {errors : List Finding}
    (inFile : ∀ error ∈ errors, storageKey error.filePath = storageKey path)
    (breach : String × String) :
    errors.countP (·.breach = breach) = findingsOfKin (kinOf path breach) errors := by
  refine List.countP_congr fun error member => ?_
  simp [Finding.breach, Finding.kin, kinOf, inFile error member, Prod.ext_iff]

/-- Errors that are separate are of the file. -/
theorem Separate.inFile (separate : Separate path findings) :
    ∀ error ∈ errorsOf findings, storageKey error.filePath = storageKey path := by
  intro error member
  obtain ⟨inside, isError⟩ := List.mem_filter.mp member
  exact separate.sameFile error inside (of_decide_eq_true isError)

/-- The todos of a file that errors need. -/
def needed (live : List Todo) (path : String) (findings : List Finding) : List Todo :=
  used (todosIn live path) (of (todosIn live path) (errorsOf findings)).taken

/-- The live todos of a file are of the file. -/
theorem key_of_mem_todosIn {todo : Todo} (member : todo ∈ todosIn live path) :
    storageKey todo.filePath = storageKey path :=
  sameFile_iff.mp (List.mem_filter.mp member).2

/-- The todos that are needed are todos of the file in their order. -/
theorem needed_sublist : (needed live path findings).Sublist (todosIn live path) :=
  used_sublist (length_of (todosIn live path) (errorsOf findings)).2

/-- The todos that are needless are todos of the file in their order. -/
theorem needless_sublist : (needless live path findings).Sublist (todosIn live path) :=
  unused_sublist (length_of (todosIn live path) (errorsOf findings)).2

/-- Of a breach as many todos are needed as there are both todos and errors, and the rest is not. -/
theorem count_needed (separate : Separate path findings) (breach : String × String) :
    (needed live path findings).countP (·.breach = breach) =
        min (todosOfBreach live path breach) (errorsOfBreach findings breach) ∧
      (needless live path findings).countP (·.breach = breach) =
        todosOfBreach live path breach - errorsOfBreach findings breach := by
  rw [countP_breach_todos fun todo member => key_of_mem_todosIn (needed_sublist.subset member),
    countP_breach_todos fun todo member => key_of_mem_todosIn (needless_sublist.subset member),
    todosOfBreach, errorsOfBreach, countP_breach_todos fun todo member => key_of_mem_todosIn member,
    countP_breach_findings separate.inFile]
  -- What is counted of a kin is taken or free, and as much is taken as there is for both sides.
  have paired := paired_of_kin (todosIn live path) (errorsOf findings) (kinOf path breach)
  have balance := balance_of (todosIn live path) (errorsOf findings) (kinOf path breach)
  have parts := used_add_unused (kinOf path breach)
    (length_of (todosIn live path) (errorsOf findings)).2
  unfold needed needless
  omega

/-- Of a breach as many todos are made as there are errors beyond the todos. -/
theorem count_fresh (separate : Separate path findings) (decay : Decay) (today : Date)
    (breach : String × String) :
    (store.fresh live path findings decay today).countP (·.breach = breach) =
      errorsOfBreach findings breach - todosOfBreach live path breach := by
  -- A new todo is of the kin of its finding, so that it is counted with the findings left over.
  have new : todosOfKin (kinOf path breach) (store.fresh live path findings decay today) =
      findingsOfKin (kinOf path breach) (uncovered (errorsOf findings)
        (of (todosIn live path) (errorsOf findings)).assigned) := by
    simp only [todosOfKin, findingsOfKin, fresh, List.countP_map]
    refine List.countP_congr fun finding _ => ?_
    simp [kin_ofFinding]
  rw [countP_breach_todos fun todo member => key_of_mem_fresh separate member, new,
    todosOfBreach, errorsOfBreach, countP_breach_todos fun todo member => key_of_mem_todosIn member,
    countP_breach_findings separate.inFile]
  have paired := paired_of_kin (todosIn live path) (errorsOf findings) (kinOf path breach)
  -- Findings are covered or not, and as many of a kin are covered as can be.
  have parts := covered_add_uncovered (kinOf path breach)
    (length_of (todosIn live path) (errorsOf findings)).1
  omega

/-- A todo that is paired is taken. -/
theorem mem_used_of_mem_partners {todos : List Todo} {errors : List Finding}
    {pair : Finding × Todo} (member : pair ∈ partners todos errors (of todos errors).assigned) :
    pair.2 ∈ used todos (of todos errors).taken := by
  obtain ⟨position, place, named⟩ := mem_partners.mp member
  have given : position ∈ given (of todos errors).assigned :=
    mem_given.mpr (List.of_mem_zip place).2
  have taken := (taken_iff_given todos errors position).mpr given
  refine List.mem_map.mpr ⟨(pair.2, true), List.mem_filter.mpr ⟨?_, rfl⟩, rfl⟩
  exact List.mem_of_getElem? (List.getElem?_zip_eq_some.mpr ⟨named, taken⟩)

/-- A todo that an error matches exactly is needed, if all todos of the file are of one engine. -/
theorem mem_needed_of_matchesExactly (distinct : Distinct live) {engine : String}
    (own : ∀ todo ∈ todosIn live path, todo.engine = engine) {todo : Todo} {error : Finding}
    (isLive : todo ∈ todosIn live path) (isError : error ∈ errorsOf findings)
    (matched : todo.matchesExactly error = true) : todo ∈ needed live path findings := by
  have spot := Todo.matchesExactly_iff.mp matched
  have some : 0 < partnersOf Todo.spot Finding.spot error.spot (partners (todosIn live path)
      (errorsOf findings) (of (todosIn live path) (errorsOf findings)).assigned) := by
    rw [partnersOf_spot, Nat.lt_min]
    exact ⟨List.countP_pos_iff.mpr ⟨todo, isLive, by simpa using spot⟩,
      List.countP_pos_iff.mpr ⟨error, isError, by simp⟩⟩
  -- A todo of the error's spot is needed, and of one engine there is only one such todo.
  obtain ⟨⟨other, paired⟩, member, both⟩ := List.countP_pos_iff.mp some
  have kept : paired ∈ needed live path findings := mem_used_of_mem_partners member
  have there := needed_sublist.subset kept
  have same : paired.identity = todo.identity := by
    have spots : paired.spot = todo.spot := (of_decide_eq_true both).2.trans spot.symm
    simp only [Todo.spot, Prod.mk.injEq] at spots
    simp only [identity, Prod.mk.injEq]
    exact ⟨(own _ there).trans (own _ isLive).symm, spots⟩
  rwa [← List.inj_on_of_nodup_map (distinct_todosIn distinct path) there isLive same]

/-- Todos that are told apart are fewer by those of them that are dropped. -/
theorem length_without {dropped : List Todo} (distinct : Distinct live)
    (some : dropped.Sublist live) :
    (live.filter fun todo => decide (todo.identity ∉ dropped.map identity)).length +
      dropped.length = live.length := by
  induction some with
  | slnil => rfl
  | @cons rest live todo within ih =>
    obtain ⟨apart, later⟩ := List.nodup_cons.mp distinct
    -- The todo is none of those that are dropped, which are live beside it.
    have stays : todo.identity ∉ rest.map identity := fun member =>
      apart ((within.map identity).subset member)
    rw [List.filter_cons_of_pos (by simpa using stays), List.length_cons, List.length_cons,
      ← ih later]
    omega
  | @cons_cons rest live todo within ih =>
    obtain ⟨apart, later⟩ := List.nodup_cons.mp distinct
    have others : (live.filter fun other =>
        decide (other.identity ∉ (todo :: rest).map identity)) =
          live.filter fun other => decide (other.identity ∉ rest.map identity) := by
      refine List.filter_congr fun other member => ?_
      have differs : other.identity ≠ todo.identity := fun same =>
        apart (same ▸ List.mem_map_of_mem member)
      simp [differs]
    rw [List.filter_cons_of_neg (by simp), others, List.length_cons, List.length_cons,
      ← ih later]
    omega

/--
What an update has done, told by the live todos before and after it: the todos of the file are those
that it kept, as they were, and those that it made of errors on this day. For every breach it is
told how many were kept and made, and the counts that are answered are the sums over all breaches.
-/
structure Accounted (store : TodoStore) (before : List Todo) (path : String)
    (findings : List Finding) (decay : Decay) (overriding : Bool) (today : Date)
    (counts : TodoCounts) (after kept made : List Todo) : Prop where
  inFile : todosIn after path = kept ++ made
  old : kept.Sublist (todosIn before path)
  new : ∀ todo ∈ made, todo.createdDate = today ∧
    ∃ error ∈ errorsOf findings, todo = ofFinding store.engine decay today error
  matched : ∀ todo ∈ todosIn before path, ∀ error ∈ errorsOf findings,
    todo.matchesExactly error = true → todo ∈ kept
  keptOf : ∀ breach, kept.countP (·.breach = breach) =
    if overriding then todosOfBreach before path breach
    else min (todosOfBreach before path breach) (errorsOfBreach findings breach)
  madeOf : ∀ breach, made.countP (·.breach = breach) =
    errorsOfBreach findings breach - todosOfBreach before path breach
  inTotal : ∀ breach, todosOfBreach after path breach =
    if overriding then max (todosOfBreach before path breach) (errorsOfBreach findings breach)
    else errorsOfBreach findings breach
  added : counts.added = ((breaches before path findings).map fun breach =>
    errorsOfBreach findings breach - todosOfBreach before path breach).sum
  removed : counts.removed = if overriding then 0 else
    ((breaches before path findings).map fun breach =>
      todosOfBreach before path breach - errorsOfBreach findings breach).sum
  size : after.length + counts.removed = before.length + counts.added
  allOld : overriding = true → before.Sublist after

/-- As many todos are made as there are errors beyond the todos, over all breaches. -/
theorem length_fresh (separate : Separate path findings) (decay : Decay) (today : Date) :
    (store.fresh live path findings decay today).length =
      ((breaches live path findings).map fun breach =>
        errorsOfBreach findings breach - todosOfBreach live path breach).sum := by
  -- Every new todo is of a breach of some finding, so that the breaches account for all of them.
  have all : ∀ todo ∈ store.fresh live path findings decay today,
      todo.breach ∈ breaches live path findings := by
    intro todo member
    obtain ⟨error, left, rfl⟩ := List.mem_map.mp member
    have inside := (List.of_mem_zip (mem_zip_of_mem_uncovered left)).1
    exact List.mem_dedup.mpr (List.mem_append_right _ (List.mem_map_of_mem inside))
  rw [← sum_countP Todo.breach (List.nodup_dedup _) all]
  simp only [count_fresh separate]
  rfl

/-- As many todos are needless as there are beyond the errors, over all breaches. -/
theorem length_needless (separate : Separate path findings) :
    (needless live path findings).length =
      ((breaches live path findings).map fun breach =>
        todosOfBreach live path breach - errorsOfBreach findings breach).sum := by
  have all : ∀ todo ∈ needless live path findings, todo.breach ∈ breaches live path findings := by
    intro todo member
    exact List.mem_dedup.mpr
      (List.mem_append_left _ (List.mem_map_of_mem (needless_sublist.subset member)))
  rw [← sum_countP Todo.breach (List.nodup_dedup _) all]
  simp only [(count_needed separate _).2]
  rfl

/-- What an update makes is made of errors on its day. -/
theorem of_mem_fresh {decay : Decay} {today : Date} {todo : Todo}
    (member : todo ∈ store.fresh live path findings decay today) :
    todo.createdDate = today ∧
      ∃ error ∈ errorsOf findings, todo = ofFinding store.engine decay today error := by
  obtain ⟨error, left, rfl⟩ := List.mem_map.mp member
  exact ⟨rfl, error, (List.of_mem_zip (mem_zip_of_mem_uncovered left)).1, rfl⟩

/-- An update that overrides no rules is accounted for: it keeps the needed todos. -/
theorem accounted_of_plain (separate : Separate path findings) (distinct : Distinct live)
    (own : ∀ todo ∈ todosIn live path, todo.engine = store.engine) (decay : Decay)
    (today : Date) :
    Accounted store live path findings decay false today
      ⟨(store.fresh live path findings decay today).length,
        (needless live path findings).length⟩
      (applyAll live ((store.fresh live path findings decay today).map .add ++
        (needless live path findings).map .remove))
      (needed live path findings) (store.fresh live path findings decay today) where
  inFile := todosIn_update separate distinct decay today
  old := needed_sublist
  new _ member := of_mem_fresh member
  matched _ isLive _ isError matched := mem_needed_of_matchesExactly distinct own isLive isError
    matched
  keptOf breach := (count_needed separate breach).1
  madeOf breach := count_fresh separate decay today breach
  inTotal breach := by
    rw [todosOfBreach, todosIn_update separate distinct, List.countP_append,
      count_fresh separate]
    have kept : (needed live path findings).countP (·.breach = breach) = _ :=
      (count_needed separate breach).1
    unfold needed at kept
    rw [kept]
    simp only [Bool.false_eq_true, if_false]
    omega
  added := length_fresh separate decay today
  removed := length_needless separate
  -- Nothing is dropped that is not there, so that the numbers can be subtracted.
  size := by
    have within : (needless live path findings).Sublist
        (live ++ store.fresh live path findings decay today) :=
      (needless_sublist.trans List.filter_sublist).trans (List.sublist_append_left _ _)
    rw [applyAll_update separate distinct,
      length_without (distinct_fresh separate distinct decay today) within, List.length_append]
  allOld := by simp

/-- An update that overrides rules is accounted for: it keeps all todos. -/
theorem accounted_of_overriding (separate : Separate path findings) (decay : Decay)
    (today : Date) :
    Accounted store live path findings decay true today
      ⟨(store.fresh live path findings decay today).length, 0⟩
      (live ++ store.fresh live path findings decay today)
      (todosIn live path) (store.fresh live path findings decay today) := by
  -- All new todos are of this file, behind those that it has already.
  have together : todosIn (live ++ store.fresh live path findings decay today) path =
      todosIn live path ++ store.fresh live path findings decay today := by
    rw [todosIn, List.filter_append, ← todosIn]
    refine congrArg (todosIn live path ++ ·) (List.filter_eq_self.mpr fun todo member => ?_)
    exact sameFile_iff.mpr (key_of_mem_fresh separate member)
  exact {
    inFile := together
    old := List.Sublist.refl _
    new := fun _ member => of_mem_fresh member
    matched := fun _ isLive _ _ _ => isLive
    keptOf := fun _ => rfl
    madeOf := fun breach => count_fresh separate decay today breach
    inTotal := fun breach => by
      rw [todosOfBreach, together, List.countP_append, count_fresh separate]
      simp only [if_true, todosOfBreach]
      omega
    added := length_fresh separate decay today
    removed := rfl
    size := List.length_append
    allOld := fun _ => List.sublist_append_left _ _ }

/--
An update that succeeds is accounted for. Of every breach it leaves as many live todos as there are
errors: of the old ones as many as there are errors for, among them each that an error matches
exactly, and new ones for the other errors. If rules are overridden it drops none of the old ones.
-/
theorem update_accounts {memory updated : TodoMemory} {changes : List Change}
    (coherent : store.Coherent memory changes) (separate : Separate path findings)
    (own : ∀ todo ∈ todosIn (Todo.live changes) path, todo.engine = store.engine) {decay : Decay}
    {overriding : Bool} {today : Date} {counts : TodoCounts}
    (update : perform (store.update path findings decay overriding today) memory =
      (.ok counts, updated)) :
    ∃ recorded kept made, store.Coherent updated recorded ∧
      Accounted store (Todo.live changes) path findings decay overriding today counts
        (Todo.live recorded) kept made := by
  obtain ⟨rfl, recorded, coherentNow, live⟩ := recorded_of_perform_update coherent update
  have distinct := distinct_live changes
  refine ⟨recorded, ?_⟩
  rw [live]
  -- An overriding update drops nothing; any other one drops the todos that no finding needs.
  cases overriding with
  | false => exact ⟨_, _, coherentNow, accounted_of_plain separate distinct own decay today⟩
  | true =>
    have together : Distinct (Todo.live changes ++
        store.fresh (Todo.live changes) path findings decay today) :=
      distinct_fresh separate distinct decay today
    have added := applyAll_add together
    simp only [if_true, List.map_nil, List.append_nil, added, List.length_nil]
    exact ⟨_, _, coherentNow, accounted_of_overriding separate decay today⟩

/-- One todo and two errors of a breach: the old todo stays as it is, and one is made. -/
theorem update_accounts_sample :
    sample.Coherent sampleMemory [.add (sampleTodo 1)] ∧ Separate "a.hbs" sampleFindings ∧
      (∀ todo ∈ todosIn (Todo.live [.add (sampleTodo 1)]) "a.hbs", todo.engine = sample.engine) ∧
      ∃ updated recorded kept made,
        perform (sample.update "a.hbs" sampleFindings .never false ⟨738001, by decide⟩)
            sampleMemory = (.ok ⟨1, 0⟩, updated) ∧
          sample.Coherent updated recorded ∧
          Accounted sample (Todo.live [.add (sampleTodo 1)]) "a.hbs" sampleFindings .never false
            ⟨738001, by decide⟩ ⟨1, 0⟩ (Todo.live recorded) kept made ∧
          kept = [sampleTodo 1] ∧ made.countP (·.breach = ("no-tabs", "\t")) = 1 := by
  have separate : Separate "a.hbs" sampleFindings := ⟨by decide +kernel, by decide +kernel⟩
  have own : ∀ todo ∈ todosIn (Todo.live [.add (sampleTodo 1)]) "a.hbs",
      todo.engine = sample.engine := by
    decide +kernel
  -- Only the counts are computed; the rest follows from the theorem.
  have made : (perform (sample.update "a.hbs" sampleFindings .never false ⟨738001, by decide⟩)
      sampleMemory).1.toOption = some ⟨1, 0⟩ := by decide +kernel
  generalize outcome : perform
    (sample.update "a.hbs" sampleFindings .never false ⟨738001, by decide⟩) sampleMemory =
      result at made
  obtain ⟨answer, updated⟩ := result
  obtain rfl := ok_of_toOption made
  obtain ⟨recorded, kept, new, coherentNow, accounted⟩ :=
    update_accounts coherent_sample separate own outcome
  refine ⟨coherent_sample, separate, own, updated, recorded, kept, new, rfl, coherentNow,
    accounted, ?_, ?_⟩
  · have old : kept.Sublist [sampleTodo 1] := accounted.old
    have one : kept.countP (·.breach = ("no-tabs", "\t")) = 1 := by
      rw [accounted.keptOf]
      decide +kernel
    rcases List.sublist_singleton.mp old with rfl | rfl
    · simp at one
    · rfl
  · rw [accounted.madeOf]
    decide +kernel

end TodoStore

end TemplateLint
