import TemplateLint.Proofs.Todo.Append
import TemplateLint.Proofs.Todo.Reconcile

/-!
Pairing once more after a cleanup: with the free todos dropped, every finding is paired with the
todo that it had, and no todo is left over. So a cleanup settles what is reported for the day.
-/

namespace TemplateLint

namespace Pairing

open Todo

variable {α : Type}

/-- The items at which a mask is set, in order. -/
def pick : List Bool → List α → List α
  | true :: mask, item :: items => item :: pick mask items
  | false :: mask, _ :: items => pick mask items
  | _, _ => []

/-- The position among picked items of the item at a position. -/
def rank : List Bool → Nat → Nat
  | own :: mask, position + 1 => rank mask position + if own then 1 else 0
  | _, _ => 0

/-- A mask that picks nothing from nothing. -/
@[simp] theorem pick_nil (mask : List Bool) : pick mask ([] : List α) = [] := by
  rcases mask with _ | ⟨_ | _, _⟩ <;> rfl

/-- The todos that are taken are those that the marks pick. -/
theorem used_eq_pick (todos : List Todo) (taken : List Bool) :
    used todos taken = pick taken todos := by
  -- The induction is on the todos, with their marks beside them.
  induction todos generalizing taken with
  | nil => rw [pick_nil, used, List.zip_nil_left, List.filter_nil, List.map_nil]
  | cons todo later ih =>
    rcases taken with _ | ⟨_ | _, others⟩
    · rfl
    · rw [used_cons_false, ih, pick]
    · rw [used_cons_true, ih, pick]

/-- An item that is picked stands at its rank. -/
theorem getElem?_pick {mask : List Bool} {position : Nat} (set : mask[position]? = some true)
    (items : List α) : (pick mask items)[rank mask position]? = items[position]? := by
  induction mask generalizing position items with
  | nil => simp at set
  | cons own mask ih =>
    cases items with
    | nil => simp
    | cons item items =>
      -- At the front the item itself is picked, and behind it an item that is picked moves the
      -- place on.
      cases position with
      | zero =>
        obtain rfl : own = true := by simpa using set
        rfl
      | succ position =>
        have rest := ih (by simpa using set) items
        cases own with
        | true => simpa [pick, rank] using rest
        | false => simpa [pick, rank] using rest

/-- Marking an item that is picked marks it at its rank. -/
theorem pick_set {mask : List Bool} {position : Nat} (set : mask[position]? = some true)
    (items : List α) (item : α) :
    pick mask (items.set position item) = (pick mask items).set (rank mask position) item := by
  induction mask generalizing position items with
  | nil => simp at set
  | cons own mask ih =>
    cases items with
    | nil => simp
    | cons first items =>
      -- As with reading, an item before the place counts only if it is picked.
      cases position with
      | zero =>
        obtain rfl : own = true := by simpa using set
        rfl
      | succ position =>
        have rest := ih (by simpa using set) items
        cases own with
        | true => simpa [pick, rank] using rest
        | false => simpa [pick, rank] using rest

/-- What a mask picks from itself is set. -/
theorem eq_true_of_mem_pick {mask : List Bool} {own : Bool} (member : own ∈ pick mask mask) :
    own = true := by
  induction mask with
  | nil => simp [pick] at member
  | cons first mask ih =>
    -- The mask picks from itself just the marks that are set.
    cases first with
    | true =>
      rcases List.mem_cons.mp member with same | inside
      · exact same
      · exact ih inside
    | false => exact ih member

/-- The first free match, if it is picked, is the first among the picked todos as well. -/
theorem firstFree_pick_some {test : Todo → Bool} {mask : List Bool} {todos : List Todo}
    {taken : List Bool} {start position : Nat}
    (first : firstFree test start todos taken = some (start + position))
    (set : mask[position]? = some true) (base : Nat) :
    firstFree test base (pick mask todos) (pick mask taken) = some (base + rank mask position) := by
  -- The induction is on the todos, with the marks and the mask beside them.
  induction todos generalizing mask taken start position base with
  | nil => simp [firstFree] at first
  | cons todo later ih =>
    rcases taken with _ | ⟨used, others⟩
    · simp [firstFree] at first
    · rcases mask with _ | ⟨own, mask⟩
      · simp at set
      · simp only [firstFree] at first
        split at first
        · rename_i fits
          obtain rfl : position = 0 := by simpa using first
          obtain rfl : own = true := by simpa using set
          simp [pick, firstFree, fits, rank]
        · rename_i unfit
          -- The first todo is passed over, whether or not it is picked.
          obtain ⟨offset, _, place, _⟩ := firstFree_some first
          obtain rfl : position = offset + 1 := by omega
          have onward : firstFree test (start + 1) later others = some (start + 1 + offset) := by
            rw [first]
            exact congrArg some (by omega)
          have rest := ih onward (by simpa using set)
          cases own with
          | true =>
            simp only [pick, firstFree, unfit, rank, if_true, rest]
            exact congrArg some (by omega)
          | false => simpa [pick, rank] using rest base

/-- Where no todo is free and matches, none of the picked ones is and does. -/
theorem firstFree_pick_none {test : Todo → Bool} {mask : List Bool} {todos : List Todo}
    {taken : List Bool} {start : Nat} (nothing : firstFree test start todos taken = none)
    (base : Nat) : firstFree test base (pick mask todos) (pick mask taken) = none := by
  -- To leave out some todos makes none of the others free.
  induction todos generalizing mask taken start base with
  | nil => simp [firstFree]
  | cons todo later ih =>
    rcases taken with _ | ⟨used, others⟩
    · cases pick mask (todo :: later) <;> simp [firstFree]
    · rcases mask with _ | ⟨own, mask⟩
      · simp [pick, firstFree]
      · simp only [firstFree] at nothing
        split at nothing
        · simp at nothing
        · rename_i unfit
          cases own with
          | true => simpa [pick, firstFree, unfit] using ih nothing (base + 1)
          | false => exact ih nothing base

/-- A pass over todos of which all that it takes are picked is a pass over the picked ones. -/
theorem pass_pick {test : Todo → Finding → Bool} {todos : List Todo} (mask : List Bool)
    {findings : List Finding} {assigned : List (Option Nat)} {taken : List Bool}
    (aligned : findings.length = assigned.length)
    (kept : ∀ position : Nat,
      (pass test todos findings assigned taken).taken[position]? = some true →
        mask[position]? = some true) :
    pass test (pick mask todos) findings (assigned.map (Option.map (rank mask)))
        (pick mask taken) =
      ⟨(pass test todos findings assigned taken).assigned.map (Option.map (rank mask)),
        pick mask (pass test todos findings assigned taken).taken⟩ := by
  -- The induction is on the findings: each takes at its rank the todo that it took before.
  induction findings generalizing assigned taken with
  | nil =>
    obtain rfl : assigned = [] := by simpa using aligned.symm
    rfl
  | cons finding findings ih =>
    rcases assigned with _ | ⟨own, assigned⟩
    · simp at aligned
    · simp only [List.length_cons, Nat.add_right_cancel_iff] at aligned
      cases own with
      | some position =>
        simp only [pass] at kept ⊢
        simp only [List.map_cons, Option.map_some, pass, ih aligned kept]
      | none =>
        simp only [pass] at kept ⊢
        simp only [List.map_cons, Option.map_none, pass]
        cases first : firstFree (test · finding) 0 todos taken with
        | none =>
          simp only [first] at kept
          simp only [firstFree_pick_none first, ih aligned kept, List.map_cons, Option.map_none]
        | some position =>
          simp only [first] at kept
          -- The todo that is taken here is taken at the end, so it is among the picked ones.
          have set : mask[position]? = some true := by
            obtain ⟨_, _, place, _, free, _⟩ := firstFree_some first
            have within : position < taken.length := by
              obtain rfl : position = _ := by simpa using place
              exact (List.getElem?_eq_some_iff.mp free).1
            have passed :=
              passed_pass test todos findings assigned (taken.set position true) aligned
            exact kept position (passed.taken_mono (List.getElem?_set_self within))
          have here : firstFree (test · finding) 0 todos taken = some (0 + position) := by
            simpa using first
          have found := firstFree_pick_some here set 0
          simp only [Nat.zero_add] at found
          simp only [found, ← pick_set set, ih aligned kept, List.map_cons, Option.map_some]

/-- What is made of picked items is picked from what is made of all. -/
theorem pick_map {β : Type} (make : α → β) (mask : List Bool) (items : List α) :
    pick mask (items.map make) = (pick mask items).map make := by
  induction mask generalizing items with
  | nil => cases items <;> rfl
  | cons own mask ih =>
    cases items with
    | nil => simp
    | cons item items => cases own <;> simp [pick, ih]

/-- Paired with some of the todos, the taken ones among them, findings take each the same again. -/
theorem of_pick {todos : List Todo} {findings : List Finding} {mask : List Bool}
    (kept : ∀ position : Nat, (of todos findings).taken[position]? = some true →
      mask[position]? = some true) :
    of (pick mask todos) findings =
      ⟨(of todos findings).assigned.map (Option.map (rank mask)),
        pick mask (of todos findings).taken⟩ := by
  have exact := passed_pass Todo.matchesExactly todos findings (findings.map fun _ => none)
    (todos.map fun _ => false) (by simp)
  -- What the exact pass takes is taken after the loose one as well.
  have loose := passed_pass Todo.matchesLoosely todos findings _ (pass Todo.matchesExactly todos
    findings (findings.map fun _ => none) (todos.map fun _ => false)).taken
    exact.length_assigned.symm
  have first := pass_pick mask (by simp) fun position taken =>
    kept position (loose.taken_mono taken)
  simp only [List.map_map, Function.comp_def, Option.map_none, pick_map] at first
  have second := pass_pick mask exact.length_assigned.symm kept
  rw [of, first]
  exact second

/-- Paired with the todos that they took, findings take each the same todo again. -/
theorem of_used (todos : List Todo) (findings : List Finding) :
    of (used todos (of todos findings).taken) findings =
      ⟨(of todos findings).assigned.map (Option.map (rank (of todos findings).taken)),
        pick (of todos findings).taken (of todos findings).taken⟩ := by
  rw [used_eq_pick]
  exact of_pick fun _ taken => taken

/-- Of the todos that findings took none is left over when they are paired again. -/
theorem unmatched_of_used (todos : List Todo) (findings : List Finding) :
    (of (used todos (of todos findings).taken) findings).unmatched
      (used todos (of todos findings).taken) = [] := by
  rw [of_used, unmatched, List.map_eq_nil_iff, List.filter_eq_nil_iff]
  rintro ⟨todo, own⟩ member
  simpa using eq_true_of_mem_pick (List.of_mem_zip member).2

/-- Covered by the taken ones among some of the todos, findings are what they are by all of them. -/
theorem zipWith_cover_pick {todos : List Todo} {findings : List Finding} {mask : List Bool}
    (kept : ∀ position : Nat, (of todos findings).taken[position]? = some true →
      mask[position]? = some true) (today : Date) :
    findings.zipWith (cover (pick mask todos) today)
        ((of todos findings).assigned.map (Option.map (rank mask))) =
      findings.zipWith (cover todos today) (of todos findings).assigned := by
  rw [List.zipWith_map_right, ← List.map_uncurry_zip_eq_zipWith, ← List.map_uncurry_zip_eq_zipWith]
  refine List.map_congr_left ?_
  rintro ⟨finding, own⟩ member
  -- A finding that has a todo finds it at its rank among those that are left.
  cases own with
  | none => rfl
  | some position =>
    have inside := mem_given.mpr (List.of_mem_zip member).2
    have set := kept position (taken_of_given todos findings position inside)
    simp only [Function.uncurry_apply_pair, cover, Option.map_some, Option.bind_some,
      getElem?_pick set]

end Pairing

namespace TodoStore

open Todo Effect Pairing

/-- A cleanup keeps of a file's todos those that its findings took. -/
theorem todosIn_cleanup {live : List Todo} (distinct : Distinct live) (path : String)
    (findings : List Finding) :
    todosIn (applyAll live (cleanupChanges live path findings true false)) path =
      used (todosIn live path) (of (todosIn live path) findings).taken := by
  have ofFile := distinct_todosIn distinct path
  -- What is dropped is what is left over, so what is kept was taken.
  rw [← filter_not_unused ofFile (length_of (todosIn live path) findings).2]
  simp only [cleanupChanges, Bool.not_false, Bool.and_self, if_true]
  rw [applyAll_remove, todosIn, todosIn, List.filter_filter, List.filter_filter]
  exact List.filter_congr fun todo _ => Bool.and_comm _ _

/-- After a cleanup no todo of the file is left over. -/
theorem unmatched_cleanup {live : List Todo} (distinct : Distinct live) (path : String)
    (findings : List Finding) :
    let after := applyAll live (cleanupChanges live path findings true false)
    (of (todosIn after path) findings).unmatched (todosIn after path) = [] := by
  intro after
  rw [todosIn_cleanup distinct]
  exact unmatched_of_used (todosIn live path) findings

/-- After a cleanup nothing is left to clean up, whichever flags are set. -/
theorem cleanupChanges_cleanup {live : List Todo} (distinct : Distinct live) (path : String)
    (findings : List Finding) (cleanup overriding : Bool) :
    cleanupChanges (applyAll live (cleanupChanges live path findings true false)) path findings
      cleanup overriding = [] := by
  -- Only todos that are left over are ever dropped.
  unfold cleanupChanges
  split
  · exact congrArg (List.map Change.remove) (unmatched_cleanup distinct path findings)
  · rfl

/-- After a cleanup the findings are reported as they were then, whichever flags are set. -/
theorem reported_after_cleanup {live : List Todo} (distinct : Distinct live) (path : String)
    (findings : List Finding) (cleanup overriding : Bool) (today : Date) :
    reported (applyAll live (cleanupChanges live path findings true false)) path findings
        cleanup overriding today =
      reported live path findings true false today := by
  have none := unmatched_cleanup distinct path findings
  simp only [reported, none, List.map_nil, List.append_nil, ite_self, Bool.or_true, if_true]
  -- Each finding has its todo at another position, where the same todo stands.
  rw [todosIn_cleanup distinct, of_used, used_eq_pick, zipWith_cover_pick fun _ taken => taken]

/-- After a cleanup that may be overridden the findings are reported as they were then. -/
theorem reported_cleanup {live : List Todo} (distinct : Distinct live) (path : String)
    (findings : List Finding) (overriding : Bool) (today : Date) :
    reported (applyAll live (cleanupChanges live path findings true overriding)) path findings
        false overriding today =
      reported live path findings true overriding today := by
  -- An override neither drops todos nor reports stale ones.
  cases overriding with
  | true => rfl
  | false => exact reported_after_cleanup distinct path findings false false today

/-- What a cleanup reports are the findings, each as its own todo lets it count. -/
theorem reported_of_cleanup (live : List Todo) (path : String) (findings : List Finding)
    (today : Date) :
    reported live path findings true false today =
      findings.zipWith (coverWith today) (ownTodos live path findings) := by
  rw [← zipWith_cover_eq]
  rfl

/--
A cleanup reports each finding as its own todo lets it count, and so does every later report on the
same findings and day, with any flags and on the same store or on one opened anew. None of these
reports a stale todo or touches the disk.
-/
theorem cleanup_settles {store : TodoStore} {memory : TodoMemory} {changes : List Change}
    (coherent : store.Coherent memory changes) (path : String) (findings : List Finding)
    (today : Date) :
    let messages := findings.zipWith (coverWith today)
      (ownTodos (Todo.live changes) path findings)
    ∃ cleaned,
      perform (store.process path findings true false today) memory = (.ok messages, cleaned) ∧
      ∀ later laterMemory, (later = store ∧ laterMemory = cleaned) ∨
          (later.directory = store.directory ∧ laterMemory = cleaned.fresh) →
        ∀ cleanup overriding, ∃ left,
          perform (later.process path findings cleanup overriding today) laterMemory =
              (.ok messages, left) ∧
            left.files = cleaned.files := by
  intro messages
  have distinct := distinct_live changes
  obtain ⟨cleaned, done, appended⟩ :=
    process_of_coherent coherent path findings true false today
  rw [reported_of_cleanup] at done
  refine ⟨cleaned, done, ?_⟩
  intro later laterMemory same cleanup overriding
  obtain ⟨coherentNow, files⟩ := coherent_later appended.coherent same
  obtain ⟨left, again, kept⟩ :=
    process_of_coherent coherentNow path findings cleanup overriding today
  -- What is live now is what the cleanup has left of the live todos.
  rw [live_append] at again kept
  rw [reported_after_cleanup distinct, reported_of_cleanup] at again
  rw [cleanupChanges_cleanup distinct] at kept
  exact ⟨left, again, (kept.idle rfl).trans files⟩

/-- Once the first of two todos is dropped, a finding keeps the second one and its severity. -/
theorem cleanup_settles_sample :
    let due : Todo := { sampleTodo 1 with errorDate := some ⟨738000, by decide⟩ }
    let log : List Change := [.add due, .add (sampleTodo 2)]
    let findings := [sampleFinding "no-trailing" .warning 1, sampleFinding "no-tabs" .error 2]
    let today : Date := ⟨738001, by decide⟩
    let messages := [sampleFinding "no-trailing" .warning 1, sampleFinding "no-tabs" .todo 2]
    sample.Coherent (sampleLog log) log ∧
      ∃ cleaned left,
        perform (sample.process "a.hbs" findings true false today) (sampleLog log) =
          (.ok messages, cleaned) ∧
        perform (sample.process "a.hbs" findings false false today) cleaned.fresh =
          (.ok messages, left) ∧
        left.files = cleaned.files := by
  intro due log findings today messages
  have coherent : sample.Coherent (sampleLog log) log := coherent_sampleLog log
  obtain ⟨cleaned, done, again⟩ := cleanup_settles coherent "a.hbs" findings today
  -- Which todos are matched is computed; the messages follow from them.
  have owns : ownTodos (Todo.live log) "a.hbs" findings = [none, some (sampleTodo 2)] := by
    decide +kernel
  rw [owns] at done again
  obtain ⟨left, same, files⟩ := again sample cleaned.fresh (.inr ⟨rfl, rfl⟩) false false
  exact ⟨coherent, cleaned, left, done, same, files⟩

end TodoStore

end TemplateLint
