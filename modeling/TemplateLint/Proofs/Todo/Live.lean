import Mathlib.Data.List.Nodup
import TemplateLint.Todo.Basic

/-! The live todos of a log: no todo stands twice among them, and they are a log of their own. -/

namespace TemplateLint

namespace Todo

/-- What tells a todo from every other, whatever its dates and the spelling of its path. -/
def identity (todo : Todo) : String × String × String × UInt64 × UInt64 × String :=
  (todo.engine, todo.rule, storageKey todo.filePath, todo.line, todo.column, todo.source)

/-- Two records are of one todo exactly when they agree in what tells todos apart. -/
theorem isSame_iff {first second : Todo} :
    first.isSame second = true ↔ first.identity = second.identity := by
  simp [isSame, identity, sameFile, and_assoc]

/-- The live todos after entries and more entries are those after the one and then the other. -/
theorem applyAll_append (live : List Todo) (changes more : List Change) :
    applyAll live (changes ++ more) = applyAll (applyAll live changes) more :=
  List.foldl_append

/-- The live todos of a log with more entries are those of the log, brought up to date. -/
theorem live_append (changes more : List Change) :
    Todo.live (changes ++ more) = applyAll (Todo.live changes) more :=
  applyAll_append [] changes more

/-- No todo stands twice. -/
def Distinct (live : List Todo) : Prop :=
  (live.map identity).Nodup

/-- A record of the todo is among the live ones. -/
theorem any_isSame_iff {live : List Todo} {todo : Todo} :
    live.any (·.isSame todo) = true ↔ todo.identity ∈ live.map identity := by
  simp only [List.any_eq_true, isSame_iff, List.mem_map]

/-- A todo that is new is added after the others. -/
theorem apply_add_of_not_mem {live : List Todo} {todo : Todo}
    (fresh : todo.identity ∉ live.map identity) : apply live (.add todo) = live ++ [todo] := by
  rw [apply, if_neg (by rw [any_isSame_iff]; exact fresh)]

/-- No entry of the log makes a todo stand twice. -/
theorem distinct_apply {live : List Todo} (distinct : Distinct live) (change : Change) :
    Distinct (apply live change) := by
  cases change with
  | add todo =>
    -- A todo that stands already is not added again.
    by_cases known : todo.identity ∈ live.map identity
    · rw [apply, if_pos (any_isSame_iff.mpr known)]
      exact distinct
    · rw [apply_add_of_not_mem known]
      simp only [Distinct, List.map_append, List.map_cons, List.map_nil]
      exact List.nodup_append.mpr ⟨distinct, by simp, by
        intro name member other same equal
        rw [List.mem_singleton.mp same] at equal
        exact known (equal ▸ member)⟩
  | remove todo => exact distinct.sublist (List.filter_sublist.map identity)

/-- No log makes a todo stand twice. -/
theorem distinct_applyAll {live : List Todo} (distinct : Distinct live) (changes : List Change) :
    Distinct (applyAll live changes) := by
  induction changes generalizing live with
  | nil => exact distinct
  | cons change later ih => exact ih (distinct_apply distinct change)

/-- The live todos of a log are told apart. -/
theorem distinct_live (changes : List Change) : Distinct (Todo.live changes) := by
  have nothing : Distinct [] := List.nodup_nil
  exact distinct_applyAll nothing changes

/-- Todos that are new and told apart are added in their order. -/
theorem applyAll_add {live todos : List Todo} (distinct : Distinct (live ++ todos)) :
    applyAll live (todos.map .add) = live ++ todos := by
  induction todos generalizing live with
  | nil => simp [applyAll]
  | cons todo later ih =>
    -- The first one is not among those that are live already.
    have fresh : todo.identity ∉ live.map identity := by
      have parts := List.nodup_append.mp (by simpa only [Distinct, List.map_append] using distinct)
      intro member
      exact parts.2.2 _ member todo.identity (by simp) rfl
    have shifted : Distinct ((live ++ [todo]) ++ later) := by simpa using distinct
    rw [List.map_cons, applyAll, List.foldl_cons, apply_add_of_not_mem fresh]
    exact (ih shifted).trans (by simp)

/-- A log of one entry for each live todo has the same live todos in the same order. -/
theorem live_adds (changes : List Change) :
    Todo.live ((Todo.live changes).map .add) = Todo.live changes := by
  have distinct : Distinct ([] ++ Todo.live changes) := distinct_live changes
  simpa [Todo.live] using applyAll_add distinct

/-- The todos of entries that remove are dropped, and all others stay in their order. -/
theorem applyAll_remove (live todos : List Todo) :
    applyAll live (todos.map .remove) =
      live.filter fun todo => decide (todo.identity ∉ todos.map identity) := by
  induction todos generalizing live with
  | nil =>
    simp [applyAll]
  | cons todo later ih =>
    rw [List.map_cons, applyAll, List.foldl_cons]
    show applyAll (apply live (.remove todo)) (later.map .remove) = _
    rw [ih, apply, List.filter_filter]
    congr 1
    funext kept
    -- A todo is dropped by the first entry or kept for the others to decide.
    by_cases same : kept.identity = todo.identity
    · have dropped := isSame_iff.mpr same
      simp [same, dropped]
    · have other : kept.isSame todo = false := by simpa using mt isSame_iff.mp same
      simp [same, other]

/-- Among live todos one goes by the name of a dropped one only if it is dropped itself. -/
theorem identity_mem_iff {live dropped : List Todo} (distinct : Distinct live)
    (within : dropped ⊆ live) {todo : Todo} (isLive : todo ∈ live) :
    todo.identity ∈ dropped.map identity ↔ todo ∈ dropped := by
  constructor
  · intro named
    obtain ⟨other, inside, same⟩ := List.mem_map.mp named
    -- Live todos are told apart, so the one of that name is the todo itself.
    rwa [← List.inj_on_of_nodup_map distinct (within inside) isLive same]
  · intro inside
    exact List.mem_map_of_mem inside

/-- A live todo stays live, whatever is added. -/
theorem mem_applyAll_add {live : List Todo} {todo : Todo} (isLive : todo ∈ live)
    (made : List Todo) : todo ∈ applyAll live (made.map .add) := by
  induction made generalizing live with
  | nil => exact isLive
  | cons first later ih =>
    rw [List.map_cons, applyAll, List.foldl_cons]
    -- The first one is added after the others, unless it is there already.
    have stays : todo ∈ apply live (.add first) := by
      rw [apply]
      split
      · exact isLive
      · exact List.mem_append_left _ isLive
    exact ih stays

/-- After todos are added and live ones dropped, a live todo is gone exactly if it is dropped. -/
theorem mem_applyAll_iff {live dropped : List Todo} (distinct : Distinct live)
    (within : dropped ⊆ live) (made : List Todo) {todo : Todo} (isLive : todo ∈ live) :
    todo ∈ applyAll live (made.map .add ++ dropped.map .remove) ↔ todo ∉ dropped := by
  rw [applyAll_append, applyAll_remove, List.mem_filter, decide_eq_true_eq,
    identity_mem_iff distinct within isLive, and_iff_right (mem_applyAll_add isLive made)]

end Todo

end TemplateLint
