import TemplateLint.Proofs.Todo.Reconcile

/-!
The todos of one file among those of all files: entries about it change them alone, and all that
is done for the file depends on them alone.
-/

namespace TemplateLint

namespace Todo

/-- An entry is about a todo of a file. -/
def Change.IsOf (path : String) (change : Change) : Prop :=
  storageKey change.todo.filePath = storageKey path

/-- It can be told what file an entry is about. -/
instance (path : String) (change : Change) : Decidable (change.IsOf path) :=
  inferInstanceAs (Decidable (_ = _))

end Todo

namespace TodoStore

open Todo Pairing

/-- The todos of a file among its own todos are all of these. -/
@[simp] theorem todosIn_todosIn (live : List Todo) (path : String) :
    todosIn (todosIn live path) path = todosIn live path := by
  simp [todosIn, List.filter_filter]

/-- A todo of a file is live exactly when it is among the live todos of the file. -/
theorem any_isSame_todosIn {live : List Todo} {path : String} {todo : Todo}
    (own : storageKey todo.filePath = storageKey path) :
    (todosIn live path).any (·.isSame todo) = live.any (·.isSame todo) := by
  rw [todosIn, List.any_filter]
  congr 1
  funext other
  -- Records of one todo are of one file.
  cases same : other.isSame todo with
  | false => simp
  | true =>
    have identity := isSame_iff.mp same
    simp only [Todo.identity, Prod.mk.injEq] at identity
    simpa [sameFile_iff] using identity.2.2.1.trans own

/-- An entry about a file changes the todos of the file as if they were all. -/
theorem todosIn_apply {live : List Todo} {path : String} {change : Change}
    (own : change.IsOf path) :
    todosIn (apply live change) path = apply (todosIn live path) change := by
  cases change with
  | add todo =>
    have here : sameFile todo.filePath path = true := sameFile_iff.mpr own
    have known : (todosIn live path).any (·.isSame todo) = live.any (·.isSame todo) :=
      any_isSame_todosIn own
    simp only [apply, known]
    -- A todo that is live is not added a second time, here or there.
    split
    · rfl
    · simp [todosIn, here]
  | remove todo =>
    simp only [apply, todosIn, List.filter_filter]
    exact List.filter_congr fun other _ => Bool.and_comm _ _

/-- An entry about another file changes no todo of this one. -/
theorem todosIn_apply_other {live : List Todo} {path other : String} {change : Change}
    (own : change.IsOf other) (apart : storageKey other ≠ storageKey path) :
    todosIn (apply live change) path = todosIn live path := by
  cases change with
  | add todo =>
    have elsewhere : sameFile todo.filePath path = false := by
      rw [← Bool.not_eq_true, sameFile_iff]
      exact fun same => apart (own.symm.trans same)
    simp only [apply]
    split
    · rfl
    · simp [todosIn, elsewhere]
  | remove todo =>
    simp only [apply, todosIn, List.filter_filter]
    refine List.filter_congr ?_
    intro kept _
    cases here : sameFile kept.filePath path with
    | false => simp
    | true =>
      -- A todo of this file is another one than the todo that is removed.
      have differs : kept.isSame todo = false := by
        rw [← Bool.not_eq_true, isSame_iff]
        intro same
        simp only [Todo.identity, Prod.mk.injEq] at same
        exact apart (own.symm.trans (same.2.2.1.symm.trans (sameFile_iff.mp here)))
      simp [differs]

/-- Of any entries those about a file change its todos, as if these were all. -/
theorem todosIn_applyAll (live : List Todo) (path : String) (changes : List Change) :
    todosIn (applyAll live changes) path =
      applyAll (todosIn live path) (changes.filter fun change => change.IsOf path) := by
  -- The induction is on the entries: each is about the file, or leaves its todos alone.
  induction changes generalizing live with
  | nil => rfl
  | cons change later ih =>
    rw [applyAll, List.foldl_cons, ← applyAll, ih]
    by_cases own : change.IsOf path
    · rw [todosIn_apply own, List.filter_cons_of_pos (by simpa using own)]
      rfl
    · rw [todosIn_apply_other rfl own, List.filter_cons_of_neg (by simpa using own)]

/-- Entries about a file change the todos of the file as if they were all. -/
theorem todosIn_applyAll_own {live : List Todo} {path : String} {changes : List Change}
    (own : ∀ change ∈ changes, change.IsOf path) :
    todosIn (applyAll live changes) path = applyAll (todosIn live path) changes := by
  rw [todosIn_applyAll, List.filter_eq_self.mpr (by simpa using own)]

/-- Entries about other files change no todo of this one. -/
theorem todosIn_applyAll_other {live : List Todo} {path : String} {changes : List Change}
    (others : ∀ change ∈ changes, ¬change.IsOf path) :
    todosIn (applyAll live changes) path = todosIn live path := by
  rw [todosIn_applyAll, List.filter_eq_nil_iff.mpr (by simpa using others)]
  rfl

/-- The entries of an update are about its file. -/
theorem isOf_of_mem_updateChanges {store : TodoStore} {live : List Todo} {path : String}
    {findings : List Finding} (named : ∀ finding ∈ findings, finding.filePath = path)
    {decay : Decay} {overriding : Bool} {today : Date} {change : Change}
    (member : change ∈ store.updateChanges live path findings decay overriding today) :
    change.IsOf path := by
  rw [updateChanges, updates_eq] at member
  rcases List.mem_append.mp member with added | removed
  · -- A todo is made of an error, which is of the file.
    obtain ⟨todo, made, rfl⟩ := List.mem_map.mp added
    obtain ⟨finding, inside, rfl⟩ := List.mem_map.mp made
    have found := (List.of_mem_zip (mem_zip_of_mem_uncovered inside)).1
    have here := named finding (List.mem_filter.mp found).1
    simp [Change.IsOf, Change.todo, ofFinding, here, storageKey_storageKey]
  · cases overriding with
    | true => simp at removed
    | false =>
      obtain ⟨todo, needless, rfl⟩ := List.mem_map.mp (by simpa using removed)
      exact sameFile_iff.mp (List.mem_filter.mp (mem_of_mem_needless needless)).2

/-- The entries of a cleanup are about its file. -/
theorem isOf_of_mem_cleanupChanges {live : List Todo} {path : String} {findings : List Finding}
    {cleanup overriding : Bool} {change : Change}
    (member : change ∈ cleanupChanges live path findings cleanup overriding) :
    change.IsOf path := by
  unfold cleanupChanges at member
  split at member
  · obtain ⟨todo, stale, rfl⟩ := List.mem_map.mp member
    -- What is stale was looked for among the todos of the file.
    obtain ⟨position, named, _⟩ := exists_of_mem_unused stale
    exact sameFile_iff.mp (List.mem_filter.mp (List.mem_of_getElem? named)).2
  · simp at member

/-- What is reported of a file is reported under its path. -/
theorem filePath_of_mem_reported {live : List Todo} {path : String} {findings : List Finding}
    (named : ∀ finding ∈ findings, finding.filePath = path) {cleanup overriding : Bool}
    {today : Date} {finding : Finding}
    (member : finding ∈ reported live path findings cleanup overriding today) :
    finding.filePath = path := by
  -- A todo that covers a finding changes no more than its severity.
  have covered : ∀ finding ∈ findings.zipWith (cover (todosIn live path) today)
      (of (todosIn live path) findings).assigned, finding.filePath = path := by
    intro finding member
    rw [← List.map_uncurry_zip_eq_zipWith] at member
    obtain ⟨⟨own, position⟩, inside, rfl⟩ := List.mem_map.mp member
    have here := named own (List.of_mem_zip inside).1
    simp only [Function.uncurry_apply_pair, cover]
    split <;> exact here
  unfold reported at member
  split at member
  · exact covered finding member
  · rcases List.mem_append.mp member with own | stale
    · exact covered finding own
    · obtain ⟨todo, _, rfl⟩ := List.mem_map.mp stale
      rfl

end TodoStore

end TemplateLint
