import Mathlib.Data.List.Induction
import TemplateLint.Proofs.Todo.Live
import TemplateLint.Todo.Log

/-!
What a log of todos means: a todo is live exactly if the last entry about it adds it. Its record is
then that of the first entry that adds it after the last one that removes it, and the records stand
in the order of these entries.
-/

namespace TemplateLint

namespace Todo

variable {before changes : List Change} {change : Change} {todo : Todo}
  {name : String × String × String × UInt64 × UInt64 × String} {start stop position : Nat}

/-- The last entry about the todo of an identity. -/
def lastAbout (name : String × String × String × UInt64 × UInt64 × String)
    (changes : List Change) : Option Change :=
  (changes.filter (·.todo.identity = name)).getLast?

/-- Between two positions of a log an entry removes the todo of an identity. -/
def DroppedBetween (changes : List Change) (start stop : Nat)
    (name : String × String × String × UInt64 × UInt64 × String) : Prop :=
  ∃ position dropped, start < position ∧ position < stop ∧
    changes[position]? = some (.remove dropped) ∧ dropped.identity = name

/--
The entry at a position adds a todo to stay: no later entry removes it, and of all entries that add
it since the last one that removes it, or since the log began, this is the first.
-/
structure Opens (changes : List Change) (position : Nat) (todo : Todo) : Prop where
  added : changes[position]? = some (.add todo)
  stays : ¬DroppedBetween changes position changes.length todo.identity
  first : ∀ earlier other, earlier < position → changes[earlier]? = some (.add other) →
    other.identity = todo.identity → DroppedBetween changes earlier position todo.identity

/-- The live todos after one more entry are those of the log, brought up to date with it. -/
theorem live_snoc (before : List Change) (change : Change) :
    Todo.live (before ++ [change]) = apply (Todo.live before) change :=
  live_append before [change]

/-- To add a todo makes its identity live beside those that are. -/
theorem mem_names_add {live : List Todo} :
    name ∈ (apply live (.add todo)).map identity ↔
      name ∈ live.map identity ∨ name = todo.identity := by
  by_cases known : todo.identity ∈ live.map identity
  · -- The todo is live already, under the same identity.
    rw [apply, if_pos (any_isSame_iff.mpr known)]
    constructor
    · exact .inl
    · rintro (member | rfl)
      · exact member
      · exact known
  · rw [apply_add_of_not_mem known, List.map_append, List.mem_append, List.map_singleton,
      List.mem_singleton]

/-- To remove a todo takes its identity away, and no other. -/
theorem mem_names_remove {live : List Todo} :
    name ∈ (apply live (.remove todo)).map identity ↔
      name ∈ live.map identity ∧ name ≠ todo.identity := by
  simp only [apply, List.mem_map, List.mem_filter, Bool.not_eq_eq_eq_not, Bool.not_true,
    Bool.eq_false_iff, ne_eq, isSame_iff]
  constructor
  · rintro ⟨kept, ⟨isLive, differs⟩, rfl⟩
    exact ⟨⟨kept, isLive, rfl⟩, differs⟩
  · rintro ⟨⟨kept, isLive, rfl⟩, differs⟩
    exact ⟨kept, ⟨isLive, differs⟩, rfl⟩

/-- The last entry of a log is the last about its own todo, and about no other. -/
theorem lastAbout_snoc (before : List Change) (change : Change) :
    lastAbout name (before ++ [change]) =
      if change.todo.identity = name then some change else lastAbout name before := by
  rw [lastAbout, List.filter_append]
  by_cases same : change.todo.identity = name
  · rw [if_pos same, List.filter_cons_of_pos (by simpa using same)]
    simp
  · rw [if_neg same, List.filter_cons_of_neg (by simpa using same)]
    simp [lastAbout]

/-- An identity is live exactly if the last entry about it adds a todo. -/
theorem mem_names_live (changes : List Change) :
    name ∈ (Todo.live changes).map identity ↔
      ∃ added, lastAbout name changes = some (.add added) := by
  -- The induction is on the log from its end, where the last entry stands.
  induction changes using List.reverseRecOn with
  | nil => simp [Todo.live, applyAll, lastAbout]
  | append_singleton before change ih =>
    rw [live_snoc, lastAbout_snoc]
    cases change with
    | add todo =>
      rw [mem_names_add, ih]
      by_cases same : todo.identity = name
      · simp [Change.todo, same]
      · simp [Change.todo, same, Ne.symm same]
    | remove todo =>
      rw [mem_names_remove, ih]
      by_cases same : todo.identity = name
      · simp [Change.todo, same]
      · simp [Change.todo, same, Ne.symm same]

/-- In a log with one more entry stand its own entries and that one. -/
theorem getElem?_snoc {entry : Change} :
    (before ++ [change])[position]? = some entry ↔
      before[position]? = some entry ∨ position = before.length ∧ change = entry := by
  -- The place is before the last entry, at it, or behind it, where nothing stands on either side.
  rcases Nat.lt_trichotomy position before.length with inside | rfl | beyond
  · rw [List.getElem?_append_left inside]
    have other : position ≠ before.length := by omega
    simp [other]
  · simp
  · have noEntry : before[position]? = none := List.getElem?_eq_none (by omega)
    have noOther : (before ++ [change])[position]? = none :=
      List.getElem?_eq_none (by simp only [List.length_append, List.length_singleton]; omega)
    have other : position ≠ before.length := by omega
    simp [noEntry, noOther, other]

/-- A position that holds an entry is one of the log. -/
theorem lt_of_getElem? {entry : Change} (stands : changes[position]? = some entry) :
    position < changes.length :=
  (List.getElem?_eq_some_iff.mp stands).1

/-- Within a log it does not matter what comes after. -/
theorem droppedBetween_within (inside : stop ≤ before.length) :
    DroppedBetween (before ++ [change]) start stop name ↔ DroppedBetween before start stop name := by
  refine exists_congr fun position => exists_congr fun dropped => ?_
  refine and_congr_right fun _ => and_congr_right fun early => and_congr_left fun _ => ?_
  rw [List.getElem?_append_left (by omega)]

/-- After a position of the log the todo is removed by an entry of the log or by the one after. -/
theorem droppedBetween_snoc (inside : start < before.length) :
    DroppedBetween (before ++ [change]) start (before ++ [change]).length name ↔
      DroppedBetween before start before.length name ∨
        ∃ dropped, change = .remove dropped ∧ dropped.identity = name := by
  -- What drops the todo is an entry before the last one, or the last one itself.
  constructor
  · rintro ⟨position, dropped, after, _, stands, same⟩
    rcases getElem?_snoc.mp stands with old | ⟨_, new⟩
    · exact .inl ⟨position, dropped, after, lt_of_getElem? old, old, same⟩
    · exact .inr ⟨dropped, new, same⟩
  · rintro (⟨position, dropped, after, early, stands, same⟩ | ⟨dropped, new, same⟩)
    · exact ⟨position, dropped, after, by rw [List.length_append]; omega,
        getElem?_snoc.mpr (.inl stands), same⟩
    · exact ⟨before.length, dropped, inside, by simp, getElem?_snoc.mpr (.inr ⟨rfl, new⟩), same⟩

/-- Nothing stands after the last position of a log. -/
theorem not_droppedBetween_last :
    ¬DroppedBetween (before ++ [change]) before.length (before ++ [change]).length name := by
  rintro ⟨position, _, after, early, _⟩
  simp only [List.length_append, List.length_singleton] at early
  omega

/-- A todo is not live exactly if after each entry that adds it another one removes it. -/
theorem not_mem_names_live (changes : List Change) :
    name ∉ (Todo.live changes).map identity ↔
      ∀ earlier other, changes[earlier]? = some (.add other) → other.identity = name →
        DroppedBetween changes earlier changes.length name := by
  induction changes using List.reverseRecOn with
  | nil => simp [Todo.live, applyAll]
  | append_singleton before change ih =>
    rw [live_snoc]
    cases change with
    | add todo =>
      -- The new entry is the last one, so nothing removes what it adds.
      rw [mem_names_add, not_or, ih]
      constructor
      · rintro ⟨old, differs⟩ earlier other stands same
        rcases getElem?_snoc.mp stands with stands | ⟨_, new⟩
        · exact (droppedBetween_snoc (lt_of_getElem? stands)).mpr (.inl (old earlier other stands same))
        · obtain rfl := Change.add.inj new
          exact absurd same.symm differs
      · intro all
        refine ⟨fun earlier other stands same => ?_, ?_⟩
        · have gone := all earlier other (getElem?_snoc.mpr (.inl stands)) same
          simpa using (droppedBetween_snoc (lt_of_getElem? stands)).mp gone
        · rintro rfl
          exact not_droppedBetween_last
            (all before.length todo (getElem?_snoc.mpr (.inr ⟨rfl, rfl⟩)) rfl)
    | remove todo =>
      -- The new entry removes one todo, whatever added it before.
      rw [mem_names_remove, not_and_or, ih, not_ne_iff]
      constructor
      · rintro gone earlier other stands same
        have old : before[earlier]? = some (.add other) := by simpa [getElem?_snoc] using stands
        refine (droppedBetween_snoc (lt_of_getElem? old)).mpr ?_
        rcases gone with gone | rfl
        · exact .inl (gone earlier other old same)
        · exact .inr ⟨todo, rfl, rfl⟩
      · intro all
        by_cases differs : name = todo.identity
        · exact .inr differs
        · refine .inl fun earlier other stands same => ?_
          have gone := all earlier other (getElem?_snoc.mpr (.inl stands)) same
          simpa [Ne.symm differs] using (droppedBetween_snoc (lt_of_getElem? stands)).mp gone

/-- What an entry of a log opens it still opens when one more entry follows that does not remove it. -/
theorem opens_within (inside : position < before.length) :
    Opens (before ++ [change]) position todo ↔
      Opens before position todo ∧
        ¬∃ dropped, change = .remove dropped ∧ dropped.identity = todo.identity := by
  have stands : (before ++ [change])[position]? = before[position]? :=
    List.getElem?_append_left inside
  -- One entry more leaves everything before it alone, so that only a removal can end what was open.
  constructor
  · rintro ⟨added, stays, first⟩
    rw [droppedBetween_snoc inside, not_or] at stays
    refine ⟨⟨stands.symm.trans added, stays.1, fun earlier other early stood same => ?_⟩, stays.2⟩
    exact (droppedBetween_within (by omega)).mp
      (first earlier other early (getElem?_snoc.mpr (.inl stood)) same)
  · rintro ⟨⟨added, stays, first⟩, keeps⟩
    refine ⟨stands.trans added, ?_, fun earlier other early stood same => ?_⟩
    · rw [droppedBetween_snoc inside, not_or]
      exact ⟨stays, keeps⟩
    · rw [List.getElem?_append_left (by omega)] at stood
      exact (droppedBetween_within (by omega)).mpr (first earlier other early stood same)

/-- After an entry that removes a todo all others are open that were. -/
theorem opens_remove (dropped : Todo) :
    Opens (before ++ [.remove dropped]) position todo ↔
      Opens before position todo ∧ todo.identity ≠ dropped.identity := by
  constructor
  · intro opens
    -- The new entry adds nothing, so it is an older one that opens the todo.
    have old : before[position]? = some (.add todo) := by simpa [getElem?_snoc] using opens.added
    obtain ⟨own, keeps⟩ := (opens_within (lt_of_getElem? old)).mp opens
    exact ⟨own, fun same => keeps ⟨dropped, rfl, same.symm⟩⟩
  · rintro ⟨own, differs⟩
    refine (opens_within (lt_of_getElem? own.added)).mpr ⟨own, ?_⟩
    rintro ⟨other, new, same⟩
    obtain rfl := Change.remove.inj new
    exact differs same.symm

/-- An entry that adds a todo opens it unless it is live, and what was open stays open. -/
theorem opens_add (added : Todo) :
    Opens (before ++ [.add added]) position todo ↔
      Opens before position todo ∨
        position = before.length ∧ todo = added ∧
          added.identity ∉ (Todo.live before).map identity := by
  constructor
  · intro opens
    rcases getElem?_snoc.mp opens.added with old | ⟨rfl, new⟩
    · exact .inl ((opens_within (lt_of_getElem? old)).mp opens).1
    · -- At the end of the log whatever added the todo before has been removed.
      obtain rfl := Change.add.inj new
      refine .inr ⟨rfl, rfl, (not_mem_names_live before).mpr fun earlier other stood same => ?_⟩
      exact (droppedBetween_within (Nat.le_refl _)).mp
        (opens.first earlier other (lt_of_getElem? stood) (getElem?_snoc.mpr (.inl stood)) same)
  · rintro (own | ⟨rfl, rfl, gone⟩)
    · refine (opens_within (lt_of_getElem? own.added)).mpr ⟨own, ?_⟩
      rintro ⟨_, new, _⟩
      simp at new
    · refine ⟨getElem?_snoc.mpr (.inr ⟨rfl, rfl⟩), not_droppedBetween_last,
        fun earlier other early stood same => ?_⟩
      rw [List.getElem?_append_left early] at stood
      exact (droppedBetween_within (Nat.le_refl _)).mpr
        ((not_mem_names_live before).mp gone earlier other stood same)

/-- Todos with the positions of the entries that opened them, in the order of these. -/
structure Placed (changes : List Change) (placed : List (Nat × Todo)) : Prop where
  inOrder : (placed.map Prod.fst).Pairwise (· < ·)
  exactly : ∀ position todo, (position, todo) ∈ placed ↔ Opens changes position todo

/-- The todos that the entries of a log opened, in the order of these entries, are the live ones. -/
theorem exists_placed (changes : List Change) :
    ∃ placed, Placed changes placed ∧ placed.map Prod.snd = Todo.live changes := by
  induction changes using List.reverseRecOn with
  | nil =>
    refine ⟨[], ⟨List.Pairwise.nil, fun position todo => ?_⟩, rfl⟩
    constructor
    · intro member
      simp at member
    · rintro ⟨added, _, _⟩
      simp at added
  | append_singleton before change ih =>
    obtain ⟨placed, ⟨inOrder, exactly⟩, same⟩ := ih
    rw [live_snoc]
    cases change with
    | remove dropped =>
      -- The removed todo loses its place, and all others keep theirs.
      refine ⟨placed.filter fun entry => !entry.2.isSame dropped, ⟨?_, ?_⟩, ?_⟩
      · exact inOrder.sublist (List.filter_sublist.map Prod.fst)
      · intro position todo
        rw [opens_remove, ← exactly, List.mem_filter, Bool.not_eq_eq_eq_not, Bool.not_true,
          Bool.eq_false_iff, ne_eq, isSame_iff]
      · rw [apply, ← same, List.filter_map]
        rfl
    | add added =>
      by_cases known : added.identity ∈ (Todo.live before).map identity
      · refine ⟨placed, ⟨inOrder, fun position todo => ?_⟩, ?_⟩
        · rw [opens_add, exactly]
          simp [known]
        · rw [apply, if_pos (any_isSame_iff.mpr known), same]
      · -- The new todo comes last, as its entry does.
        refine ⟨placed ++ [(before.length, added)], ⟨?_, fun position todo => ?_⟩, ?_⟩
        · rw [List.map_append, List.pairwise_append]
          refine ⟨inOrder, List.pairwise_singleton _ _, ?_⟩
          intro earlier member last isLast
          obtain ⟨⟨_, todo⟩, inside, rfl⟩ := List.mem_map.mp member
          obtain rfl : last = before.length := by simpa using isLast
          exact lt_of_getElem? ((exactly _ todo).mp inside).added
        · rw [opens_add, List.mem_append, exactly, List.mem_singleton, Prod.mk.injEq]
          simp [known]
        · rw [apply_add_of_not_mem known, List.map_append, same, List.map_singleton]

/--
What a log means: no two live todos are the same, and one is live exactly if the last entry about it
adds it. Every live todo has the record of the first entry that adds it since the last one that
removes it, and the live todos stand in the order of these entries.
-/
theorem live_opened (changes : List Change) :
    (Todo.live changes).Pairwise (fun first second => first.isSame second = false) ∧
      (∀ first second : Todo, first.isSame second = true ↔ first.identity = second.identity) ∧
      (∀ name, name ∈ (Todo.live changes).map identity ↔
        ∃ added, lastAbout name changes = some (.add added)) ∧
      ∃ placed : List (Nat × Todo),
        placed.map Prod.snd = Todo.live changes ∧
        (placed.map Prod.fst).Pairwise (· < ·) ∧
        ∀ position todo, (position, todo) ∈ placed ↔ Opens changes position todo := by
  refine ⟨?_, fun _ _ => isSame_iff, fun _ => mem_names_live changes, ?_⟩
  · have apart := distinct_live changes
    rw [Distinct, List.Nodup, List.pairwise_map] at apart
    exact apart.imp fun differ => Bool.eq_false_iff.mpr (mt isSame_iff.mp differ)
  -- Live todos are placed where each was first added since it was last dropped.
  · obtain ⟨placed, ⟨inOrder, exactly⟩, same⟩ := exists_placed changes
    exact ⟨placed, same, inOrder, exactly⟩

end Todo

end TemplateLint
