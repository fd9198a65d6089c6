import TemplateLint.Todo.Pairing

/-!
How findings and todos are paired: every pair is of one kin, no todo serves twice, and of every
kin as many are paired as there are findings and todos for.
-/

namespace TemplateLint

/-- What a todo has in common with every finding that it can cover. -/
def Todo.kin (todo : Todo) : String × String × String :=
  (todo.rule, storageKey todo.filePath, todo.source)

/-- What a finding has in common with every todo that can cover it. -/
def Finding.kin (finding : Finding) : String × String × String :=
  (finding.rule, storageKey finding.filePath, finding.source)

/-- What a todo has in common with every finding that it stands for exactly. -/
def Todo.spot (todo : Todo) : String × String × UInt64 × UInt64 × String :=
  (todo.rule, storageKey todo.filePath, todo.line, todo.column, todo.source)

/-- What a finding has in common with every todo that stands for it exactly. -/
def Finding.spot (finding : Finding) : String × String × UInt64 × UInt64 × String :=
  (finding.rule, storageKey finding.filePath, finding.line, finding.column, finding.source)

/-- A todo matches a finding loosely exactly when they are of one kin. -/
theorem Todo.matchesLoosely_iff {todo : Todo} {finding : Finding} :
    todo.matchesLoosely finding = true ↔ todo.kin = finding.kin := by
  simp [matchesLoosely, sameFile, kin, Finding.kin, and_assoc]

/-- A todo matches a finding exactly when they are of one spot. -/
theorem Todo.matchesExactly_iff {todo : Todo} {finding : Finding} :
    todo.matchesExactly finding = true ↔ todo.spot = finding.spot := by
  simp [matchesExactly, sameFile, spot, Finding.spot, and_assoc]

/-- A todo and a finding of one spot are of one kin. -/
theorem Todo.kin_eq_of_matchesExactly {todo : Todo} {finding : Finding}
    (matched : todo.matchesExactly finding = true) : todo.kin = finding.kin := by
  have spots := Todo.matchesExactly_iff.mp matched
  simp only [spot, Finding.spot, Prod.mk.injEq] at spots
  simp only [kin, Finding.kin, Prod.mk.injEq]
  exact ⟨spots.1, spots.2.1, spots.2.2.2.2⟩

namespace Pairing

/-- The todo that is found first is free and satisfies the test. -/
theorem firstFree_some {test : Todo → Bool} {start found : Nat} {todos : List Todo}
    {taken : List Bool} (first : firstFree test start todos taken = some found) :
    ∃ position todo, found = start + position ∧ todos[position]? = some todo ∧
      taken[position]? = some false ∧ test todo = true := by
  induction todos generalizing start taken with
  | nil => simp [firstFree] at first
  | cons todo later ih =>
    cases taken with
    | nil => simp [firstFree] at first
    | cons used others =>
      simp only [firstFree] at first
      split at first
      · rename_i fits
        simp only [Bool.and_eq_true, Bool.not_eq_true'] at fits
        refine ⟨0, todo, ?_, rfl, by simp [fits.1], fits.2⟩
        simpa using first.symm
      · -- Positions among the later ones are counted from one further on.
        obtain ⟨position, other, place, named, free, fits⟩ := ih first
        exact ⟨position + 1, other, by omega, by simpa using named, by simpa using free, fits⟩

/-- Where none is found, no todo is free and satisfies the test. -/
theorem firstFree_none {test : Todo → Bool} {start : Nat} {todos : List Todo} {taken : List Bool}
    (nothing : firstFree test start todos taken = none) {position : Nat} {todo : Todo}
    (named : todos[position]? = some todo) (free : taken[position]? = some false) :
    test todo = false := by
  induction todos generalizing start taken position with
  | nil => simp at named
  | cons first later ih =>
    cases taken with
    | nil => simp at free
    | cons used others =>
      simp only [firstFree] at nothing
      -- The first todo was passed over because it is taken or does not fit.
      split at nothing
      · simp at nothing
      · rename_i unfit
        cases position with
        | zero =>
          simp only [List.getElem?_cons_zero, Option.some.injEq] at named free
          subst named free
          simpa using unfit
        | succ position => exact ih nothing (by simpa using named) (by simpa using free)

/--
What a pass over findings does, one finding after another: a finding keeps its todo, takes a free
one that matches, or is left without one because none does.
-/
inductive Passed (test : Todo → Finding → Bool) (todos : List Todo) :
    List Finding → List (Option Nat) → List Bool → List (Option Nat) → List Bool → Prop where
  | done (taken : List Bool) : Passed test todos [] [] taken [] taken
  | keep {finding : Finding} {findings : List Finding} {position : Nat}
      {assigned after : List (Option Nat)} {taken last : List Bool}
      (later : Passed test todos findings assigned taken after last) :
    Passed test todos (finding :: findings) (some position :: assigned) taken
      (some position :: after) last
  | take {finding : Finding} {findings : List Finding} {position : Nat} {todo : Todo}
      {assigned after : List (Option Nat)} {taken last : List Bool}
      (named : todos[position]? = some todo) (free : taken[position]? = some false)
      (matched : test todo finding = true)
      (later : Passed test todos findings assigned (taken.set position true) after last) :
    Passed test todos (finding :: findings) (none :: assigned) taken
      (some position :: after) last
  | leave {finding : Finding} {findings : List Finding} {assigned after : List (Option Nat)}
      {taken last : List Bool}
      (unmatched : ∀ (position : Nat) (todo : Todo), todos[position]? = some todo →
        taken[position]? = some false → test todo finding = false)
      (later : Passed test todos findings assigned taken after last) :
    Passed test todos (finding :: findings) (none :: assigned) taken (none :: after) last

/-- A pass does that to every list of findings. -/
theorem passed_pass (test : Todo → Finding → Bool) (todos : List Todo) (findings : List Finding)
    (assigned : List (Option Nat)) (taken : List Bool)
    (aligned : findings.length = assigned.length) :
    Passed test todos findings assigned taken (pass test todos findings assigned taken).assigned
      (pass test todos findings assigned taken).taken := by
  induction findings generalizing assigned taken with
  | nil =>
    obtain rfl : assigned = [] := by simpa using aligned.symm
    exact .done taken
  | cons finding findings ih =>
    cases assigned with
    | nil => simp at aligned
    | cons own assigned =>
      simp only [List.length_cons, Nat.add_right_cancel_iff] at aligned
      cases own with
      | some position => exact .keep (ih assigned taken aligned)
      | none =>
        simp only [pass]
        -- Either no free todo fits the finding, or the first that does is taken.
        cases first : firstFree (test · finding) 0 todos taken with
        | none =>
          exact .leave (fun position todo named free => firstFree_none first named free)
            (ih assigned taken aligned)
        | some found =>
          obtain ⟨position, todo, place, named, free, matched⟩ := firstFree_some first
          obtain rfl : found = position := by omega
          exact .take named free matched (ih assigned _ aligned)

/-- The positions of the todos that findings have. -/
def given (assigned : List (Option Nat)) : List Nat :=
  assigned.filterMap id

/-- A position is given when a finding has it. -/
theorem mem_given {position : Nat} {assigned : List (Option Nat)} :
    position ∈ given assigned ↔ some position ∈ assigned := by
  simp [given]

/-- A finding that has a todo adds its position. -/
@[simp] theorem given_cons_some (position : Nat) (assigned : List (Option Nat)) :
    given (some position :: assigned) = position :: given assigned :=
  rfl

/-- A finding that has no todo adds none. -/
@[simp] theorem given_cons_none (assigned : List (Option Nat)) :
    given (none :: assigned) = given assigned :=
  rfl

/-- Taking one more todo leaves those taken that were. -/
theorem stays_taken (found : Nat) {position : Nat} {taken : List Bool}
    (used : taken[position]? = some true) : (taken.set found true)[position]? = some true := by
  by_cases same : found = position
  · subst same
    rw [List.getElem?_set_self (List.getElem?_eq_some_iff.mp used).1]
  · rw [List.getElem?_set_ne same, used]

/-- A todo that is free after one more is taken is another one, and was free. -/
theorem free_before {found position : Nat} {taken : List Bool}
    (unused : (taken.set found true)[position]? = some false) :
    found ≠ position ∧ taken[position]? = some false := by
  by_cases same : found = position
  · subst same
    -- What has just been taken is not free.
    simp [List.getElem?_set] at unused
  · rw [List.getElem?_set_ne same] at unused
    exact ⟨same, unused⟩

namespace Passed

variable {test : Todo → Finding → Bool} {todos : List Todo} {findings : List Finding}
  {assigned after : List (Option Nat)} {taken last : List Bool}

/-- Every finding has its place in the result. -/
theorem length_assigned (passed : Passed test todos findings assigned taken after last) :
    after.length = findings.length := by
  induction passed with
  | done => rfl
  | keep later ih => simp [ih]
  | take named free matched later ih => simp [ih]
  | leave unmatched later ih => simp [ih]

/-- Every todo has its place in the result. -/
theorem length_taken (passed : Passed test todos findings assigned taken after last) :
    last.length = taken.length := by
  induction passed with
  | done => rfl
  | keep later ih => exact ih
  | take named free matched later ih => simpa using ih
  | leave unmatched later ih => exact ih

/-- A todo that is taken stays taken. -/
theorem taken_mono (passed : Passed test todos findings assigned taken after last)
    {position : Nat} (used : taken[position]? = some true) : last[position]? = some true := by
  induction passed with
  | done => exact used
  | keep later ih => exact ih used
  | leave unmatched later ih => exact ih used
  | take named free matched later ih => exact ih (stays_taken _ used)

/-- A finding that is left without a todo has no match that is still free. -/
theorem taken_of_left (passed : Passed test todos findings assigned taken after last)
    (sized : taken.length = todos.length) {finding : Finding}
    (left : (finding, none) ∈ findings.zip after) {position : Nat} {todo : Todo}
    (named : todos[position]? = some todo) (matched : test todo finding = true) :
    last[position]? = some true := by
  induction passed with
  | done => simp at left
  | keep later ih => exact ih sized (by simpa using left)
  | take _ _ _ later ih => exact ih (by simpa using sized) (by simpa using left)
  | @leave first _ _ _ taken _ unmatched later ih =>
    rcases List.mem_cons.mp left with same | inside
    · -- The finding looked for a free match itself, so this one was taken already.
      obtain rfl : finding = first := (Prod.mk.inj same).1
      have within : position < taken.length := by
        rw [sized]
        exact (List.getElem?_eq_some_iff.mp named).1
      cases used : taken[position] with
      | true => exact later.taken_mono (by rw [List.getElem?_eq_getElem within, used])
      | false =>
        have unfit := unmatched position todo named (by rw [List.getElem?_eq_getElem within, used])
        rw [matched] at unfit
        simp at unfit
    · exact ih sized inside

/-- A finding that is left without a todo had none before. -/
theorem left_before (passed : Passed test todos findings assigned taken after last)
    {finding : Finding} (left : (finding, none) ∈ findings.zip after) :
    (finding, none) ∈ findings.zip assigned := by
  -- A pass only gives todos to findings, and never takes one back.
  induction passed with
  | done => simp at left
  | keep later ih => exact List.mem_cons_of_mem _ (ih (by simpa using left))
  | take named free matched later ih => exact List.mem_cons_of_mem _ (ih (by simpa using left))
  | leave unmatched later ih =>
    rcases List.mem_cons.mp left with same | inside
    · rw [same]
      exact List.mem_cons_self
    · exact List.mem_cons_of_mem _ (ih inside)

/-- A todo is taken because it was before, or by a finding that it matches. -/
theorem taken_before_or_given (passed : Passed test todos findings assigned taken after last)
    {position : Nat} (used : last[position]? = some true) :
    taken[position]? = some true ∨ ∃ finding todo, (finding, some position) ∈ findings.zip after ∧
      todos[position]? = some todo ∧ test todo finding = true := by
  induction passed with
  | done => exact .inl used
  | keep later ih =>
    rcases ih used with before | ⟨finding, todo, member, rest⟩
    · exact .inl before
    · exact .inr ⟨finding, todo, List.mem_cons_of_mem _ member, rest⟩
  | leave unmatched later ih =>
    rcases ih used with before | ⟨finding, todo, member, rest⟩
    · exact .inl before
    · exact .inr ⟨finding, todo, List.mem_cons_of_mem _ member, rest⟩
  | @take first _ found todo _ _ taken _ named free matched later ih =>
    -- This step has taken the todo itself, or it was taken before or later.
    by_cases same : found = position
    · subst same
      exact .inr ⟨first, todo, List.mem_cons_self, named, matched⟩
    · rcases ih used with before | ⟨finding, todo, member, rest⟩
      · rw [List.getElem?_set_ne same] at before
        exact .inl before
      · exact .inr ⟨finding, todo, List.mem_cons_of_mem _ member, rest⟩

/-- What holds of every pair before and of every match holds of every pair after. -/
theorem pairs (passed : Passed test todos findings assigned taken after last)
    (Good : Finding → Nat → Prop)
    (before : ∀ finding position, (finding, some position) ∈ findings.zip assigned →
      Good finding position)
    (fresh : ∀ (finding : Finding) (position : Nat) (todo : Todo), todos[position]? = some todo →
      test todo finding = true → Good finding position) :
    ∀ finding position, (finding, some position) ∈ findings.zip after → Good finding position := by
  -- The induction is on the pass: old pairs are kept, new ones are matches.
  induction passed with
  | done => simp
  | keep later ih =>
    intro finding position member
    rcases List.mem_cons.mp member with same | inside
    · exact before finding position (by rw [same]; exact List.mem_cons_self)
    · exact ih (fun other place inner => before other place (List.mem_cons_of_mem _ inner))
        finding position inside
  | take named free matched later ih =>
    intro finding position member
    rcases List.mem_cons.mp member with same | inside
    · simp only [Prod.mk.injEq, Option.some.injEq] at same
      rw [same.1, same.2]
      exact fresh _ _ _ named matched
    · exact ih (fun other place inner => before other place (List.mem_cons_of_mem _ inner))
        finding position inside
  | leave unmatched later ih =>
    intro finding position member
    have inside := by simpa using member
    exact ih (fun other place inner => before other place (List.mem_cons_of_mem _ inner))
      finding position inside

/-- No todo is given twice, as long as all that are given from the start are taken. -/
theorem nodup (passed : Passed test todos findings assigned taken after last)
    (once : (given assigned).Nodup)
    (known : ∀ position ∈ given assigned, taken[position]? = some true) :
    (given after).Nodup ∧ ∀ position ∈ given after,
      position ∈ given assigned ∨ taken[position]? = some false := by
  induction passed with
  | done => simp [given]
  | @keep _ _ own assigned after taken _ later ih =>
    simp only [given_cons_some, List.nodup_cons, List.mem_cons] at once known ⊢
    obtain ⟨laterOnce, origin⟩ := ih once.2 fun position member => known position (.inr member)
    refine ⟨⟨?_, laterOnce⟩, ?_⟩
    · -- The kept todo is no later one's, and is not free to be taken either.
      intro member
      rcases origin own member with old | free
      · exact once.1 old
      · rw [known own (.inl rfl)] at free
        simp at free
    · intro position member
      rcases member with same | inside
      · exact .inl (.inl same)
      · rcases origin position inside with old | free
        · exact .inl (.inr old)
        · exact .inr free
  | @take _ _ found _ assigned after taken _ named free matched later ih =>
    simp only [given_cons_some, given_cons_none, List.nodup_cons, List.mem_cons] at once known ⊢
    -- The position that is taken here is marked for the findings that follow.
    have stillKnown : ∀ position ∈ given assigned,
        (taken.set found true)[position]? = some true := by
      intro position member
      exact stays_taken found (known position member)
    obtain ⟨laterOnce, origin⟩ := ih once stillKnown
    refine ⟨⟨?_, laterOnce⟩, ?_⟩
    · intro member
      -- No finding before it has the todo, since it was free until now.
      rcases origin found member with old | unused
      · rw [known found old] at free
        simp at free
      · exact (free_before unused).1 rfl
    · intro position member
      rcases member with same | inside
      · subst same
        exact .inr free
      · rcases origin position inside with old | unused
        · exact .inl old
        · exact .inr (free_before unused).2
  | leave unmatched later ih =>
    exact ih once known

end Passed

/-- The todos that are taken. -/
def used (todos : List Todo) (taken : List Bool) : List Todo :=
  ((todos.zip taken).filter (·.2)).map (·.1)

/-- The todos that are free. -/
def unused (todos : List Todo) (taken : List Bool) : List Todo :=
  ((todos.zip taken).filter (!·.2)).map (·.1)

/-- The findings that have a todo. -/
def covered (findings : List Finding) (assigned : List (Option Nat)) : List Finding :=
  ((findings.zip assigned).filter (·.2.isSome)).map (·.1)

/-- The findings that have none. -/
def uncovered (findings : List Finding) (assigned : List (Option Nat)) : List Finding :=
  ((findings.zip assigned).filter (·.2.isNone)).map (·.1)

/-- How many todos are of a kin. -/
def todosOfKin (kin : String × String × String) (todos : List Todo) : Nat :=
  todos.countP (·.kin = kin)

/-- How many findings are of a kin. -/
def findingsOfKin (kin : String × String × String) (findings : List Finding) : Nat :=
  findings.countP (·.kin = kin)

/-- A todo that is taken is among those that are. -/
@[simp] theorem used_cons_true (todo : Todo) (todos : List Todo) (taken : List Bool) :
    used (todo :: todos) (true :: taken) = todo :: used todos taken :=
  rfl

/-- A todo that is free is not among those that are taken. -/
@[simp] theorem used_cons_false (todo : Todo) (todos : List Todo) (taken : List Bool) :
    used (todo :: todos) (false :: taken) = used todos taken :=
  rfl

/-- A todo that is taken is not among those that are free. -/
@[simp] theorem unused_cons_true (todo : Todo) (todos : List Todo) (taken : List Bool) :
    unused (todo :: todos) (true :: taken) = unused todos taken :=
  rfl

/-- A todo that is free is among those that are. -/
@[simp] theorem unused_cons_false (todo : Todo) (todos : List Todo) (taken : List Bool) :
    unused (todo :: todos) (false :: taken) = todo :: unused todos taken :=
  rfl

/-- A finding that has a todo is among those that have one. -/
@[simp] theorem covered_cons_some (finding : Finding) (findings : List Finding) (position : Nat)
    (assigned : List (Option Nat)) :
    covered (finding :: findings) (some position :: assigned) =
      finding :: covered findings assigned :=
  rfl

/-- A finding that has no todo is not among those that have one. -/
@[simp] theorem covered_cons_none (finding : Finding) (findings : List Finding)
    (assigned : List (Option Nat)) :
    covered (finding :: findings) (none :: assigned) = covered findings assigned :=
  rfl

/-- A finding that has a todo is not among those that have none. -/
@[simp] theorem uncovered_cons_some (finding : Finding) (findings : List Finding) (position : Nat)
    (assigned : List (Option Nat)) :
    uncovered (finding :: findings) (some position :: assigned) = uncovered findings assigned :=
  rfl

/-- A finding that has no todo is among those that have none. -/
@[simp] theorem uncovered_cons_none (finding : Finding) (findings : List Finding)
    (assigned : List (Option Nat)) :
    uncovered (finding :: findings) (none :: assigned) = finding :: uncovered findings assigned :=
  rfl

/-- The todos that are taken are todos in their order. -/
theorem used_sublist {todos : List Todo} {taken : List Bool}
    (sized : taken.length = todos.length) : (used todos taken).Sublist todos := by
  have cut := (List.filter_sublist (p := fun marked : Todo × Bool => marked.2)
    (l := todos.zip taken)).map Prod.fst
  rwa [List.map_fst_zip (Nat.le_of_eq sized.symm)] at cut

/-- The todos that are free are todos in their order. -/
theorem unused_sublist {todos : List Todo} {taken : List Bool}
    (sized : taken.length = todos.length) : (unused todos taken).Sublist todos := by
  have cut := (List.filter_sublist (p := fun marked : Todo × Bool => !marked.2)
    (l := todos.zip taken)).map Prod.fst
  rwa [List.map_fst_zip (Nat.le_of_eq sized.symm)] at cut

/-- One more todo counts if it is of the kin. -/
@[simp] theorem todosOfKin_cons (kin : String × String × String) (todo : Todo)
    (todos : List Todo) :
    todosOfKin kin (todo :: todos) = todosOfKin kin todos + if todo.kin = kin then 1 else 0 := by
  simp [todosOfKin, List.countP_cons]

/-- One more finding counts if it is of the kin. -/
@[simp] theorem findingsOfKin_cons (kin : String × String × String) (finding : Finding)
    (findings : List Finding) :
    findingsOfKin kin (finding :: findings) =
      findingsOfKin kin findings + if finding.kin = kin then 1 else 0 := by
  simp [findingsOfKin, List.countP_cons]

/-- Every todo is taken or free. -/
theorem used_add_unused (kin : String × String × String) {todos : List Todo} {taken : List Bool}
    (sized : taken.length = todos.length) :
    todosOfKin kin (used todos taken) + todosOfKin kin (unused todos taken) =
      todosOfKin kin todos := by
  -- The induction is on the todos, each with the mark beside it.
  induction todos generalizing taken with
  | nil => rfl
  | cons todo later ih =>
    cases taken with
    | nil => simp at sized
    | cons own others =>
      have rest := ih (by simpa using sized)
      cases own with
      | true =>
        simp only [used_cons_true, unused_cons_true, todosOfKin_cons]
        omega
      | false =>
        simp only [used_cons_false, unused_cons_false, todosOfKin_cons]
        omega

/-- Every finding has a todo or none. -/
theorem covered_add_uncovered (kin : String × String × String) {findings : List Finding}
    {assigned : List (Option Nat)} (sized : assigned.length = findings.length) :
    findingsOfKin kin (covered findings assigned) +
      findingsOfKin kin (uncovered findings assigned) = findingsOfKin kin findings := by
  -- The induction is on the findings, each with what was given to it.
  induction findings generalizing assigned with
  | nil => rfl
  | cons finding later ih =>
    cases assigned with
    | nil => simp at sized
    | cons own others =>
      have rest := ih (by simpa using sized)
      cases own with
      | some position =>
        simp only [covered_cons_some, uncovered_cons_some, findingsOfKin_cons]
        omega
      | none =>
        simp only [covered_cons_none, uncovered_cons_none, findingsOfKin_cons]
        omega

/-- Taking a free todo adds one to the todos that are taken of its kin. -/
theorem used_set (kin : String × String × String) {todos : List Todo} {taken : List Bool}
    {position : Nat} {todo : Todo} (named : todos[position]? = some todo)
    (free : taken[position]? = some false) :
    todosOfKin kin (used todos (taken.set position true)) =
      todosOfKin kin (used todos taken) + if todo.kin = kin then 1 else 0 := by
  induction todos generalizing taken position with
  | nil => simp at named
  | cons first later ih =>
    cases taken with
    | nil => simp at free
    | cons own others =>
      cases position with
      | zero =>
        simp only [List.getElem?_cons_zero, Option.some.injEq] at named free
        subst named free
        simp
      | succ position =>
        -- The first todo stays as it is, whether it is taken or not.
        have rest := ih (by simpa using named) (by simpa using free)
        cases own with
        | true =>
          simp only [List.set_cons_succ, used_cons_true, todosOfKin_cons]
          omega
        | false => simpa using rest

/-- A pass takes as many todos of a kin as it gives to findings of that kin. -/
theorem Passed.balance {test : Todo → Finding → Bool} {todos : List Todo}
    {findings : List Finding} {assigned after : List (Option Nat)} {taken last : List Bool}
    (passed : Passed test todos findings assigned taken after last)
    (akin : ∀ todo finding, test todo finding = true → todo.kin = finding.kin)
    (kin : String × String × String) :
    todosOfKin kin (used todos last) + findingsOfKin kin (covered findings assigned) =
      todosOfKin kin (used todos taken) + findingsOfKin kin (covered findings after) := by
  induction passed with
  | done => rfl
  | keep later ih =>
    simp only [covered_cons_some, findingsOfKin_cons]
    omega
  | leave unmatched later ih => simpa using ih
  | take named free matched later ih =>
    -- The todo that is taken and the finding that it is given to are counted together.
    have one := akin _ _ matched
    rw [used_set kin named free, one] at ih
    simp only [covered_cons_none, covered_cons_some, findingsOfKin_cons]
    omega

/-- What a pass gives it has also taken. -/
theorem Passed.taken_of_given {test : Todo → Finding → Bool} {todos : List Todo}
    {findings : List Finding} {assigned after : List (Option Nat)} {taken last : List Bool}
    (passed : Passed test todos findings assigned taken after last)
    (known : ∀ position ∈ given assigned, taken[position]? = some true) :
    ∀ position ∈ given after, last[position]? = some true := by
  induction passed with
  | done => exact known
  | keep later ih =>
    intro position member
    simp only [given_cons_some, List.mem_cons] at known member
    rcases member with same | inside
    · exact later.taken_mono (known position (.inl same))
    · exact ih (fun other inner => known other (.inr inner)) position inside
  | leave unmatched later ih => exact ih known
  | @take _ _ found _ _ _ taken _ named free matched later ih =>
    -- A todo that is given is marked as taken from here on.
    have within : found < taken.length := (List.getElem?_eq_some_iff.mp free).1
    intro position member
    simp only [given_cons_some, given_cons_none, List.mem_cons] at known member
    rcases member with same | inside
    · subst same
      exact later.taken_mono (by rw [List.getElem?_set_self within])
    · refine ih ?_ position inside
      intro other inner
      exact stays_taken found (known other inner)

/-- Before any pass no finding has a todo and no todo is taken. -/
theorem nothing_given (findings : List Finding) (todos : List Todo) :
    covered findings (findings.map fun _ => none) = [] ∧
      used todos (todos.map fun _ => false) = [] ∧
      given (findings.map fun _ => none) = [] := by
  -- Without a todo for any finding and a finding for any todo all three are empty.
  refine ⟨?_, ?_, ?_⟩
  · induction findings with
    | nil => rfl
    | cons finding later ih => simpa [covered] using ih
  · induction todos with
    | nil => rfl
    | cons todo later ih => simpa [used] using ih
  · induction findings with
    | nil => rfl
    | cons finding later ih => simpa using ih

/-- Before any pass no todo is given that is not taken. -/
theorem nothing_known (findings : List Finding) (todos : List Todo) :
    ∀ position ∈ given (findings.map fun _ => none),
      (todos.map fun _ => false)[position]? = some true := by
  rw [(nothing_given findings todos).2.2]
  exact fun _ never => nomatch never

/-- What the pass over exact matches leaves to the one over loose matches. -/
def exactly (todos : List Todo) (findings : List Finding) : Pairing :=
  pass Todo.matchesExactly todos findings (findings.map fun _ => none) (todos.map fun _ => false)

/-- Pairing begins with a pass over exact matches. -/
theorem passed_exactly (todos : List Todo) (findings : List Finding) :
    Passed Todo.matchesExactly todos findings (findings.map fun _ => none)
      (todos.map fun _ => false) (exactly todos findings).assigned
      (exactly todos findings).taken :=
  passed_pass _ _ _ _ _ (List.length_map _).symm

/-- Pairing ends with a pass over loose matches. -/
theorem passed_loosely (todos : List Todo) (findings : List Finding) :
    Passed Todo.matchesLoosely todos findings (exactly todos findings).assigned
      (exactly todos findings).taken (of todos findings).assigned (of todos findings).taken :=
  passed_pass _ _ _ _ _ (passed_exactly todos findings).length_assigned.symm

/-- Pairing is a pass over exact matches and then a pass over loose ones. -/
theorem passed_of (todos : List Todo) (findings : List Finding) :
    ∃ assigned taken,
      Passed Todo.matchesExactly todos findings (findings.map fun _ => none)
        (todos.map fun _ => false) assigned taken ∧
      Passed Todo.matchesLoosely todos findings assigned taken (of todos findings).assigned
        (of todos findings).taken :=
  ⟨_, _, passed_exactly todos findings, passed_loosely todos findings⟩

/-- A todo that exact matches are given is taken. -/
theorem taken_of_given_exactly (todos : List Todo) (findings : List Finding) :
    ∀ position ∈ given (exactly todos findings).assigned,
      (exactly todos findings).taken[position]? = some true :=
  (passed_exactly todos findings).taken_of_given (nothing_known findings todos)

/-- A todo that a finding has is taken. -/
theorem taken_of_given (todos : List Todo) (findings : List Finding) :
    ∀ position ∈ given (of todos findings).assigned,
      (of todos findings).taken[position]? = some true :=
  (passed_loosely todos findings).taken_of_given (taken_of_given_exactly todos findings)

/-- Every finding and every todo has its place in a pairing. -/
theorem length_of (todos : List Todo) (findings : List Finding) :
    (of todos findings).assigned.length = findings.length ∧
      (of todos findings).taken.length = todos.length := by
  obtain ⟨_, _, exact, loose⟩ := passed_of todos findings
  refine ⟨loose.length_assigned, ?_⟩
  rw [loose.length_taken, exact.length_taken, List.length_map]

/-- The todo of a finding is one of the todos and of the finding's kin. -/
theorem kin_of_assigned {todos : List Todo} {findings : List Finding} {finding : Finding}
    {position : Nat}
    (paired : (finding, some position) ∈ findings.zip (of todos findings).assigned) :
    ∃ todo, todos[position]? = some todo ∧ todo.kin = finding.kin := by
  obtain ⟨_, _, exact, loose⟩ := passed_of todos findings
  -- Both passes pair only what is of one kin, and at first nothing is paired.
  have nothing : ∀ (finding : Finding) (position : Nat),
      (finding, some position) ∈ findings.zip (findings.map fun _ => none) →
        ∃ todo, todos[position]? = some todo ∧ todo.kin = finding.kin := by
    intro finding position member
    have never := (List.of_mem_zip member).2
    simp at never
  have first := exact.pairs _ nothing fun finding position todo named matched =>
    ⟨todo, named, Todo.kin_eq_of_matchesExactly matched⟩
  have second := loose.pairs _ first fun finding position todo named matched =>
    ⟨todo, named, Todo.matchesLoosely_iff.mp matched⟩
  exact second finding position paired

/-- No todo is given to two findings. -/
theorem nodup_of (todos : List Todo) (findings : List Finding) :
    (given (of todos findings).assigned).Nodup := by
  obtain ⟨_, _, nothing⟩ := nothing_given findings todos
  have nothingTwice : (given (findings.map fun _ => none)).Nodup := by
    rw [nothing]
    exact List.nodup_nil
  -- The exact pass gives nothing twice, and the loose one starts from what it took.
  obtain ⟨once, _⟩ :=
    (passed_exactly todos findings).nodup nothingTwice (nothing_known findings todos)
  exact ((passed_loosely todos findings).nodup once (taken_of_given_exactly todos findings)).1

/-- Exact matches take as many todos of a kin as findings of the kin have one. -/
theorem balance_exactly (todos : List Todo) (findings : List Finding)
    (kin : String × String × String) :
    todosOfKin kin (used todos (exactly todos findings).taken) =
      findingsOfKin kin (covered findings (exactly todos findings).assigned) := by
  obtain ⟨noFinding, noTodo, _⟩ := nothing_given findings todos
  have sums := (passed_exactly todos findings).balance (fun _ _ => Todo.kin_eq_of_matchesExactly) kin
  rw [noFinding, noTodo] at sums
  -- Nothing was taken and nothing given before.
  simpa [todosOfKin, findingsOfKin] using sums

/-- As many todos of a kin are taken as findings of the kin have one. -/
theorem balance_of (todos : List Todo) (findings : List Finding) (kin : String × String × String) :
    todosOfKin kin (used todos (of todos findings).taken) =
      findingsOfKin kin (covered findings (of todos findings).assigned) := by
  have first := balance_exactly todos findings kin
  -- The loose pass takes as many as it covers too, since its matches are of one kin.
  have second := (passed_loosely todos findings).balance
    (fun _ _ => Todo.matchesLoosely_iff.mp) kin
  omega

/-- Where a finding has no todo, all todos of its kin are taken. -/
theorem taken_of_unpaired {todos : List Todo} {findings : List Finding} {finding : Finding}
    (left : (finding, none) ∈ findings.zip (of todos findings).assigned) {position : Nat}
    {todo : Todo} (named : todos[position]? = some todo) (akin : todo.kin = finding.kin) :
    (of todos findings).taken[position]? = some true := by
  obtain ⟨_, _, exact, loose⟩ := passed_of todos findings
  refine loose.taken_of_left ?_ left named (Todo.matchesLoosely_iff.mpr akin)
  rw [exact.length_taken, List.length_map]

/-- A free todo stands somewhere among the todos, and its position is not taken. -/
theorem exists_of_mem_unused {todos : List Todo} {taken : List Bool} {todo : Todo}
    (member : todo ∈ unused todos taken) :
    ∃ position : Nat, todos[position]? = some todo ∧ taken[position]? = some false := by
  simp only [unused, List.mem_map, List.mem_filter] at member
  obtain ⟨⟨same, free⟩, ⟨inside, kept⟩, rfl⟩ := member
  obtain ⟨position, place⟩ := List.mem_iff_getElem?.mp inside
  rw [List.getElem?_zip_eq_some] at place
  simp only [Bool.not_eq_true'] at kept
  subst kept
  exact ⟨position, place⟩

/-- A finding without a todo stands among the findings beside nothing. -/
theorem mem_zip_of_mem_uncovered {findings : List Finding} {assigned : List (Option Nat)}
    {finding : Finding} (member : finding ∈ uncovered findings assigned) :
    (finding, none) ∈ findings.zip assigned := by
  simp only [uncovered, List.mem_map, List.mem_filter] at member
  obtain ⟨⟨same, own⟩, ⟨inside, kept⟩, rfl⟩ := member
  simp only [Option.isNone_iff_eq_none] at kept
  subst kept
  exact inside

/-- Of every kin as many findings have a todo as there are findings and todos for. -/
theorem paired_of_kin (todos : List Todo) (findings : List Finding)
    (kin : String × String × String) :
    findingsOfKin kin (covered findings (of todos findings).assigned) =
      min (findingsOfKin kin findings) (todosOfKin kin todos) := by
  obtain ⟨allFindings, allTodos⟩ := length_of todos findings
  have balance := balance_of todos findings kin
  have byFinding := covered_add_uncovered kin allFindings
  have byTodo := used_add_unused kin allTodos
  -- A finding left without a todo and a todo left free would have been paired.
  have exhausted : findingsOfKin kin (uncovered findings (of todos findings).assigned) = 0 ∨
      todosOfKin kin (unused todos (of todos findings).taken) = 0 := by
    rcases Nat.eq_zero_or_pos
      (findingsOfKin kin (uncovered findings (of todos findings).assigned)) with none | some
    · exact .inl none
    · obtain ⟨finding, left, findingKin⟩ := List.countP_pos_iff.mp some
      refine .inr (List.countP_eq_zero.mpr ?_)
      intro todo free todoKin
      obtain ⟨position, named, unusedPosition⟩ := exists_of_mem_unused free
      simp only [decide_eq_true_eq] at findingKin todoKin
      have used := taken_of_unpaired (mem_zip_of_mem_uncovered left) named
        (todoKin.trans findingKin.symm)
      rw [used] at unusedPosition
      simp at unusedPosition
  -- One side is used up, so as many are paired as the smaller side has.
  omega

/--
A finding that is left without a todo has none of its own spot, as long as no other finding is of
the same spot: a todo of its spot is never given to another finding.
-/
theorem spot_ne_of_unpaired {todos : List Todo} {findings : List Finding}
    (apart : (findings.map Finding.spot).Nodup) {finding : Finding}
    (left : (finding, none) ∈ findings.zip (of todos findings).assigned) :
    ∀ todo ∈ todos, todo.spot ≠ finding.spot := by
  intro todo member same
  obtain ⟨position, named⟩ := List.mem_iff_getElem?.mp member
  obtain ⟨assigned, taken, exact, loose⟩ := passed_of todos findings
  have leftFirst := loose.left_before left
  -- A todo of its spot would match exactly, so it was taken by another finding.
  have used := exact.taken_of_left (by simp) leftFirst named (Todo.matchesExactly_iff.mpr same)
  rcases exact.taken_before_or_given used with never | ⟨other, again, paired, namedAgain, matched⟩
  · rw [List.getElem?_map] at never
    cases todos[position]? <;> simp at never
  · obtain rfl : again = todo := by
      rw [named] at namedAgain
      simpa using namedAgain.symm
    -- The finding that took the todo is of its spot too, so it is the same finding.
    obtain ⟨first, firstPlace⟩ := List.mem_iff_getElem?.mp paired
    obtain ⟨second, secondPlace⟩ := List.mem_iff_getElem?.mp leftFirst
    rw [List.getElem?_zip_eq_some] at firstPlace secondPlace
    have spots : (findings.map Finding.spot)[first]? = (findings.map Finding.spot)[second]? := by
      rw [List.getElem?_map, List.getElem?_map, firstPlace.1, secondPlace.1]
      simp only [Option.map_some, ← Todo.matchesExactly_iff.mp matched, same]
    have within : first < (findings.map Finding.spot).length := by
      rw [List.length_map]
      exact (List.getElem?_eq_some_iff.mp firstPlace.1).1
    obtain rfl : first = second := (List.getElem?_inj within apart).mp spots
    rw [firstPlace.2] at secondPlace
    simp at secondPlace

end Pairing

end TemplateLint
