import Mathlib.Data.List.Nodup
import TemplateLint.Proofs.Todo.Cleanup

/-!
What becomes of the todos that other engines made: only one of the file at hand that nothing took is
ever dropped, and but for these what is answered is answered without those todos as well.
-/

namespace TemplateLint

namespace Pairing

open Todo

/-- The marks of the todos that pass a test or are taken. -/
def keep (test : Todo → Bool) (todos : List Todo) (taken : List Bool) : List Bool :=
  todos.zipWith (fun todo own => test todo || own) taken

variable {test : Todo → Bool} {todos : List Todo} {taken : List Bool}

/-- A todo that is taken is kept. -/
theorem keep_of_taken (sized : taken.length = todos.length) {position : Nat}
    (set : taken[position]? = some true) : (keep test todos taken)[position]? = some true := by
  have within : position < todos.length := by
    rw [← sized]
    exact (List.getElem?_eq_some_iff.mp set).1
  simp [keep, List.getElem?_zipWith, List.getElem?_eq_getElem within, set]

/-- Of todos that are told apart those are picked that pass the test or are taken. -/
theorem pick_keep (distinct : Distinct todos) (sized : taken.length = todos.length) :
    pick (keep test todos taken) todos =
      todos.filter fun todo => test todo || decide (todo ∈ used todos taken) := by
  -- A later todo is another one than the first, so the first one's fate does not touch it.
  induction todos generalizing taken with
  | nil => simp
  | cons todo later ih =>
    obtain ⟨own, others, rfl⟩ : ∃ own others, taken = own :: others :=
      List.exists_cons_of_ne_nil (by rintro rfl; simp at sized)
    obtain ⟨apart, laterDistinct⟩ := List.nodup_cons.mp distinct
    have rest := ih laterDistinct (by simpa using sized)
    have below : used later others ⊆ later := by
      intro other member
      obtain ⟨⟨_, _⟩, marked, rfl⟩ := List.mem_map.mp member
      exact (List.of_mem_zip (List.mem_filter.mp marked).1).1
    have differs : ∀ other ∈ later, other ≠ todo := fun other member same =>
      apart (same ▸ List.mem_map_of_mem member)
    have fate : (later.filter fun other =>
        test other || decide (other ∈ used (todo :: later) (own :: others))) =
          later.filter fun other => test other || decide (other ∈ used later others) := by
      refine List.filter_congr fun other member => ?_
      cases own with
      | true => simp [differs other member]
      | false => rfl
    cases own with
    | true =>
      rw [List.filter_cons_of_pos (by simp), fate, ← rest]
      simp [keep, pick]
    | false =>
      have free : todo ∉ used later others := fun member => differs todo (below member) rfl
      cases passes : test todo with
      | true =>
        rw [List.filter_cons_of_pos (by simp [passes]), fate, ← rest]
        simp [keep, pick, passes]
      | false =>
        rw [List.filter_cons_of_neg (by simp [passes, free]), fate, ← rest]
        simp [keep, pick, passes]

/-- Of the todos that are free those are left that pass the test. -/
theorem unused_keep (todos : List Todo) (taken : List Bool) :
    unused (pick (keep test todos taken) todos) (pick (keep test todos taken) taken) =
      (unused todos taken).filter test := by
  induction todos generalizing taken with
  | nil => simp [unused]
  | cons todo later ih =>
    -- A todo is kept if it is taken or passes the test, and only one that is free can be unused.
    rcases taken with _ | ⟨own, others⟩
    · simp [unused]
    · have rest := ih others
      unfold keep at rest ⊢
      cases own with
      | true => simpa [pick] using rest
      | false => cases passes : test todo <;> simpa [pick, passes] using rest

/-- Findings without a todo are none the wiser when the others' todos change places. -/
theorem uncovered_map (findings : List Finding) (assigned : List (Option Nat))
    (place : Nat → Nat) :
    uncovered findings (assigned.map (Option.map place)) = uncovered findings assigned := by
  induction findings generalizing assigned with
  | nil => rfl
  | cons finding findings ih =>
    -- Whether a finding is covered does not depend on where its todo stands.
    rcases assigned with _ | ⟨_ | position, assigned⟩
    · rfl
    · simpa using ih assigned
    · simpa using ih assigned

end Pairing

namespace TodoStore

open Todo Effect Pairing

/-- The todos that other engines made than that of the store. -/
def others (store : TodoStore) (live : List Todo) : List Todo :=
  live.filter (·.engine ≠ store.engine)

/-- Among no todos there are none of other engines. -/
@[simp] theorem others_nil (store : TodoStore) : store.others [] = [] :=
  rfl

/-- The todos of a file that findings took. -/
def held (live : List Todo) (path : String) (findings : List Finding) : List Todo :=
  used (todosIn live path) (of (todosIn live path) findings).taken

/-- The todos of a file that no finding took. -/
def stale (live : List Todo) (path : String) (findings : List Finding) : List Todo :=
  unused (todosIn live path) (of (todosIn live path) findings).taken

/-- The live todos without those of other engines that no finding of a file took. -/
def ownOrHeld (store : TodoStore) (live : List Todo) (path : String) (findings : List Finding) :
    List Todo :=
  live.filter fun todo => todo.engine = store.engine || decide (todo ∈ held live path findings)

variable {store : TodoStore} {live : List Todo} {path : String} {findings : List Finding}

/-- The todos of a store's own engine add nothing to those of others. -/
theorem others_add {made : List Todo} (own : ∀ todo ∈ made, todo.engine = store.engine) :
    store.others (applyAll live (made.map .add)) = store.others live := by
  induction made generalizing live with
  | nil => rfl
  | cons todo later ih =>
    rw [List.map_cons, applyAll, List.foldl_cons, ← applyAll,
      ih fun other member => own other (List.mem_cons_of_mem _ member), apply]
    -- A todo that is live already is not added again, and any other is of this engine.
    split
    · rfl
    · simp [others, own todo List.mem_cons_self]

/-- Of other engines' todos none but the dropped ones are gone, whatever is made beside them. -/
theorem others_applyAll (distinct : Distinct live) {made dropped : List Todo}
    (own : ∀ todo ∈ made, todo.engine = store.engine) (within : dropped ⊆ live) :
    store.others (applyAll live (made.map .add ++ dropped.map .remove)) =
      (store.others live).filter fun todo => decide (todo ∉ store.others dropped) := by
  -- Todos are dropped by name, and whose they are does not change that.
  have cut : store.others (applyAll live (made.map .add ++ dropped.map .remove)) =
      (store.others (applyAll live (made.map .add))).filter fun todo =>
        decide (todo.identity ∉ dropped.map identity) := by
    rw [applyAll_append, applyAll_remove, others, others, List.filter_filter, List.filter_filter]
    exact List.filter_congr fun todo _ => Bool.and_comm _ _
  rw [cut, others_add own]
  refine List.filter_congr fun todo member => ?_
  obtain ⟨isLive, foreign⟩ := List.mem_filter.mp member
  have same := identity_mem_iff distinct within isLive
  simp only [same, others, List.mem_filter, foreign, and_true]

/--
An action gives this answer, and of the live todos of other engines it leaves all but these, each as
it was and in their order. Where there is no log it may fail to make one, and then all are left.
-/
def Spares {α : Type} (store : TodoStore) (changes : List Change) (memory : TodoMemory)
    (action : TodoAction α) (answer : α) (gone : List Todo) : Prop :=
  ∃ outcome left recorded, perform action memory = (outcome, left) ∧
    store.Coherent left recorded ∧
    ((outcome = .ok answer ∧ store.others (Todo.live recorded) =
        (store.others (Todo.live changes)).filter fun todo => decide (todo ∉ gone)) ∨
      (memory.files.isFile store.logPath = false ∧
        (∃ cause, outcome = .error (.unwritable store.logPath cause)) ∧ recorded = changes))

/-- An action that adds entries of own todos, and drops live ones, spares those of other engines. -/
theorem spares_of_append {α : Type} {action : TodoAction α} {answer : α} {memory : TodoMemory}
    {changes : List Change} (coherent : store.Coherent memory changes) {made dropped : List Todo}
    (own : ∀ todo ∈ made, todo.engine = store.engine) (within : dropped ⊆ Todo.live changes)
    (acts : perform action memory = mapAnswer (fun _ => answer)
      (perform (store.append (made.map .add ++ dropped.map .remove))
        (memory.loaded (Todo.live changes)))) :
    store.Spares changes memory action answer (store.others dropped) := by
  have read := coherent_loaded coherent
  -- To add the entries is all that may fail, and it leaves everything as it was then.
  rcases perform_append read (made.map .add ++ dropped.map .remove) with
    ⟨cause, failed⟩ | ⟨left, added, kept⟩
  · rw [failed] at acts
    refine ⟨_, _, changes, acts, read, .inr ⟨?_, ⟨cause, rfl⟩, rfl⟩⟩
    cases file : memory.files.isFile store.logPath with
    | false => rfl
    | true =>
      -- A log that is there takes all entries.
      obtain ⟨_, answered, _⟩ :=
        append_of_isFile read file (made.map .add ++ dropped.map .remove)
      rw [failed] at answered
      simp at answered
  · rw [added] at acts
    refine ⟨_, _, _, acts, kept, .inl ⟨rfl, ?_⟩⟩
    rw [live_append]
    exact others_applyAll (distinct_live changes) own within

/-- What no finding took of a file is live. -/
theorem stale_subset : stale live path findings ⊆ live := by
  intro todo member
  obtain ⟨position, named, _⟩ := exists_of_mem_unused member
  exact (List.mem_filter.mp (List.mem_of_getElem? named)).1

/-- What is dropped of a file, if anything, is live. -/
theorem ite_stale_subset (drops : Prop) [Decidable drops] :
    (if drops then stale live path findings else []) ⊆ live := by
  split
  · exact stale_subset
  · exact List.nil_subset live

/-- What a cleanup adds to the log are entries that drop the stale todos. -/
theorem cleanupChanges_eq (live : List Todo) (path : String) (findings : List Finding)
    (cleanup overriding : Bool) :
    cleanupChanges live path findings cleanup overriding =
      (if cleanup && !overriding then stale live path findings else []).map .remove := by
  unfold cleanupChanges
  split <;> rfl

/-- An update spares the todos of other engines, but for those of its file that no error took. -/
theorem spares_update {memory : TodoMemory} {changes : List Change}
    (coherent : store.Coherent memory changes) (path : String) (findings : List Finding)
    (decay : Decay) (overriding : Bool) (today : Date) :
    let dropped := if overriding then [] else stale (Todo.live changes) path (errorsOf findings)
    store.Spares changes memory (store.update path findings decay overriding today)
      ⟨(store.fresh (Todo.live changes) path findings decay today).length, dropped.length⟩
      (store.others dropped) := by
  intro dropped
  have within : dropped ⊆ Todo.live changes := by
    cases overriding with
    | true => exact List.nil_subset _
    | false => exact stale_subset
  -- What an update makes is made under the name of the store's engine.
  have own : ∀ todo ∈ store.fresh (Todo.live changes) path findings decay today,
      todo.engine = store.engine := by
    intro todo member
    obtain ⟨finding, _, rfl⟩ := List.mem_map.mp member
    rfl
  exact spares_of_append coherent own within
    (perform_update_eq coherent path findings decay overriding today)

/-- Findings held against todos spare those of other engines, save stale ones on cleanup. -/
theorem spares_process {memory : TodoMemory} {changes : List Change}
    (coherent : store.Coherent memory changes) (path : String) (findings : List Finding)
    (cleanup overriding : Bool) (today : Date) :
    store.Spares changes memory (store.process path findings cleanup overriding today)
      (reported (Todo.live changes) path findings cleanup overriding today)
      (store.others (if cleanup && !overriding then stale (Todo.live changes) path findings
        else [])) := by
  have noneMade : ∀ todo ∈ ([] : List Todo), todo.engine = store.engine := by simp
  refine spares_of_append coherent noneMade (ite_stale_subset _) ?_
  rw [perform_process coherent, cleanupChanges_eq, List.map_nil, List.nil_append]

/-- What is left of a file without the todos of other engines that nothing took, as a choice. -/
theorem todosIn_ownOrHeld (distinct : Distinct live) (path : String) (findings : List Finding) :
    todosIn (store.ownOrHeld live path findings) path =
      pick (keep (·.engine = store.engine) (todosIn live path)
        (of (todosIn live path) findings).taken) (todosIn live path) := by
  rw [pick_keep (distinct_todosIn distinct path) (length_of (todosIn live path) findings).2,
    todosIn, ownOrHeld, held, todosIn, List.filter_filter, List.filter_filter]
  exact List.filter_congr fun todo _ => Bool.and_comm _ _

/-- Without the todos of other engines that nothing took, findings take the same todos. -/
theorem of_ownOrHeld (distinct : Distinct live) (path : String) (findings : List Finding) :
    let mask := keep (·.engine = store.engine) (todosIn live path)
      (of (todosIn live path) findings).taken
    of (todosIn (store.ownOrHeld live path findings) path) findings =
      ⟨(of (todosIn live path) findings).assigned.map (Option.map (rank mask)),
        pick mask (of (todosIn live path) findings).taken⟩ := by
  intro mask
  rw [todosIn_ownOrHeld distinct]
  exact of_pick fun position => keep_of_taken (length_of (todosIn live path) findings).2

/-- Without the todos of other engines that nothing took, only the own ones are left over. -/
theorem stale_ownOrHeld (distinct : Distinct live) (path : String) (findings : List Finding) :
    stale (store.ownOrHeld live path findings) path findings =
      (stale live path findings).filter (·.engine = store.engine) := by
  rw [stale, of_ownOrHeld distinct, todosIn_ownOrHeld distinct]
  exact unused_keep _ _

/-- Without the todos of other engines that nothing took, an update makes the same todos. -/
theorem fresh_ownOrHeld (distinct : Distinct live) (path : String) (findings : List Finding)
    (decay : Decay) (today : Date) :
    store.fresh (store.ownOrHeld live path (errorsOf findings)) path findings decay today =
      store.fresh live path findings decay today := by
  rw [fresh, of_ownOrHeld distinct, uncovered_map]
  rfl

/-- The findings of a file with the severities of the todos that they took. -/
def coveredOn (live : List Todo) (path : String) (findings : List Finding) (today : Date) :
    List Finding :=
  findings.zipWith (cover (todosIn live path) today) (of (todosIn live path) findings).assigned

/-- What is reported are the covered findings, and a finding for each stale todo that is kept. -/
theorem reported_eq (live : List Todo) (path : String) (findings : List Finding)
    (cleanup overriding : Bool) (today : Date) :
    reported live path findings cleanup overriding today =
      if overriding || cleanup then coveredOn live path findings today
      else coveredOn live path findings today ++
        (stale live path findings).map (staleFinding path) :=
  rfl

/-- Without the todos of other engines that nothing took, findings are covered as they were. -/
theorem coveredOn_ownOrHeld (distinct : Distinct live) (path : String) (findings : List Finding)
    (today : Date) :
    coveredOn (store.ownOrHeld live path findings) path findings today =
      coveredOn live path findings today := by
  rw [coveredOn, of_ownOrHeld distinct, todosIn_ownOrHeld distinct]
  exact zipWith_cover_pick (fun position =>
    keep_of_taken (length_of (todosIn live path) findings).2) today

/-- Todos are those of the store's engine and those of others. -/
theorem length_own_add_others (store : TodoStore) (todos : List Todo) :
    (todos.filter (·.engine = store.engine)).length + (store.others todos).length =
      todos.length := by
  rw [List.length_eq_length_filter_add (l := todos) (·.engine = store.engine), others]
  congr 2
  exact List.filter_congr fun todo _ => by simp

/--
To update a file's todos, or to hold findings against them, leaves every live todo of other engines
as it is, save those of the file that no finding took: an update drops them, and so does a cleanup,
unless rules are overridden. The answer is that of a store which has no todos of other engines but
those that findings took, except that the stale ones are counted as dropped or reported as stale.
-/
theorem others_stay {memory : TodoMemory} {changes : List Change}
    (coherent : store.Coherent memory changes) (path : String) (findings : List Finding)
    (overriding : Bool) (today : Date) :
    (∀ decay, ∃ counts,
      let gone := if overriding then [] else
        store.others (stale (Todo.live changes) path (errorsOf findings))
      store.Spares changes memory (store.update path findings decay overriding today) counts
        gone ∧
      ∀ fewer fewerMemory, store.Coherent fewerMemory fewer →
        Todo.live fewer = store.ownOrHeld (Todo.live changes) path (errorsOf findings) →
        ∃ removed, counts.removed = removed + gone.length ∧
          store.Spares fewer fewerMemory (store.update path findings decay overriding today)
            { counts with removed } []) ∧
    ∀ cleanup, ∃ messages,
      store.Spares changes memory (store.process path findings cleanup overriding today) messages
        (if cleanup && !overriding then store.others (stale (Todo.live changes) path findings)
          else []) ∧
      ∀ fewer fewerMemory, store.Coherent fewerMemory fewer →
        Todo.live fewer = store.ownOrHeld (Todo.live changes) path findings →
        ∃ own, store.Spares fewer fewerMemory
            (store.process path findings cleanup overriding today) own [] ∧
          if cleanup || overriding then messages = own
          else ∃ covered,
            messages = covered ++ (stale (Todo.live changes) path findings).map
              (staleFinding path) ∧
            own = covered ++ ((stale (Todo.live changes) path findings).filter
              (·.engine = store.engine)).map (staleFinding path) := by
  have distinct := distinct_live changes
  -- Own todos are none of other engines.
  have none (todos : List Todo) :
      store.others (todos.filter (·.engine = store.engine)) = [] := by
    simp [others, List.filter_filter]
  -- Both answers are known in terms of the live todos, so the two stores are compared by these.
  refine ⟨fun decay => ?_, fun cleanup => ?_⟩
  · refine ⟨⟨(store.fresh (Todo.live changes) path findings decay today).length,
      (if overriding then [] else stale (Todo.live changes) path (errorsOf findings)).length⟩,
      ?_, fun fewer fewerMemory coherentFewer same => ?_⟩
    · have spared := spares_update coherent path findings decay overriding today
      cases overriding <;> exact spared
    · have spared := spares_update coherentFewer path findings decay overriding today
      rw [same, fresh_ownOrHeld distinct, stale_ownOrHeld distinct] at spared
      cases overriding with
      | true => exact ⟨0, rfl, spared⟩
      | false =>
        refine ⟨_, (length_own_add_others store _).symm, ?_⟩
        simpa only [Bool.false_eq_true, if_false, none] using spared
  · refine ⟨reported (Todo.live changes) path findings cleanup overriding today, ?_,
      fun fewer fewerMemory coherentFewer same => ?_⟩
    · have spared := spares_process coherent path findings cleanup overriding today
      cases cleanup <;> cases overriding <;> exact spared
    · have spared := spares_process coherentFewer path findings cleanup overriding today
      rw [same, stale_ownOrHeld distinct] at spared
      have nothing : store.others (if cleanup && !overriding then
          (stale (Todo.live changes) path findings).filter (·.engine = store.engine)
          else []) = [] := by
        rw [apply_ite store.others, none, others_nil, ite_self]
      rw [nothing] at spared
      refine ⟨_, spared, ?_⟩
      rw [reported_eq, reported_eq, coveredOn_ownOrHeld distinct, stale_ownOrHeld distinct]
      -- Stale todos are reported only where they are neither dropped nor passed over.
      cases cleanup <;> cases overriding
      · exact ⟨_, rfl, rfl⟩
      all_goals rfl

/-- A todo of another engine that an error takes is as live after an update as it was before. -/
theorem others_stay_sample :
    let store : TodoStore := { sample with engine := "other" }
    store.Coherent sampleMemory [.add (sampleTodo 1)] ∧ (sampleTodo 1).engine ≠ store.engine ∧
      ∃ counts left recorded,
        perform (store.update "a.hbs" sampleFindings .never false ⟨738001, by decide⟩)
            sampleMemory = (.ok counts, left) ∧
          store.Coherent left recorded ∧ sampleTodo 1 ∈ Todo.live recorded := by
  intro store
  have coherent : store.Coherent sampleMemory [.add (sampleTodo 1)] :=
    coherent_engine coherent_sample "other"
  obtain ⟨counts, ⟨outcome, left, recorded, acts, kept, answer⟩, _⟩ :=
    (others_stay coherent "a.hbs" sampleFindings false ⟨738001, by decide⟩).1 .never
  refine ⟨coherent, by decide, counts, left, recorded, ?_⟩
  rcases answer with ⟨rfl, stays⟩ | ⟨file, _⟩
  · refine ⟨acts, kept, ?_⟩
    have before : (store.others (Todo.live [.add (sampleTodo 1)])).filter (fun todo =>
        decide (todo ∉ store.others (stale (Todo.live [.add (sampleTodo 1)]) "a.hbs"
          (errorsOf sampleFindings)))) = [sampleTodo 1] := by
      decide +kernel
    have after : sampleTodo 1 ∈ store.others (Todo.live recorded) := by
      rw [stays, if_neg (by decide), before]
      exact List.mem_singleton_self _
    exact (List.mem_filter.mp after).1
  · -- There is a log, so the update has not failed.
    have there : sampleMemory.files.isFile store.logPath = true := by decide +kernel
    simp [there] at file

/-- A todo of another engine that no error of its file takes is dropped, and counted as dropped. -/
theorem update_drops_foreign :
    let store : TodoStore := { sample with engine := "other" }
    store.Coherent sampleMemory [.add (sampleTodo 1)] ∧ (sampleTodo 1).engine ≠ store.engine ∧
      sampleTodo 1 ∈ Todo.live [.add (sampleTodo 1)] ∧
      (perform (store.update "a.hbs" [] .never false ⟨738001, by decide⟩ >>= fun counts =>
          store.liveTodos >>= fun live => pure (counts, live)) sampleMemory).1.toOption =
        some (⟨0, 1⟩, []) := by
  intro store
  exact ⟨coherent_engine coherent_sample "other", by decide, by decide, by decide +kernel⟩

end TodoStore

end TemplateLint
