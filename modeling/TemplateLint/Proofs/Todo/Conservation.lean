import TemplateLint.Proofs.Todo.Append
import TemplateLint.Proofs.Todo.Foreign
import TemplateLint.Proofs.Todo.Optimal

/-!
To hold findings against the todos of their file neither loses nor invents a finding: each is told
once, each todo of the file serves one finding or is stale, and only what is stale is dropped.
-/

namespace TemplateLint

namespace Pairing

/-- A position that is given is that of a todo. -/
theorem lt_of_given {todos : List Todo} {findings : List Finding} {position : Nat}
    (member : position ∈ given (of todos findings).assigned) : position < todos.length := by
  -- What is given is marked, and there is one mark for each todo.
  have marked := (taken_iff_given todos findings position).mpr member
  have within := (List.getElem?_eq_some_iff.mp marked).1
  rwa [(length_of todos findings).2] at within

/-- The positions that are given and those that are not are all positions. -/
theorem given_append_free (todos : List Todo) (findings : List Finding) :
    (given (of todos findings).assigned ++
      (List.range todos.length).filter fun position =>
        position ∉ given (of todos findings).assigned).Perm (List.range todos.length) := by
  apply (List.perm_ext_iff_of_nodup ?_ List.nodup_range).mpr
  · intro position
    simp only [List.mem_append, List.mem_filter, decide_eq_true_eq]
    constructor
    · rintro (member | ⟨within, _⟩)
      · exact List.mem_range.mpr (lt_of_given member)
      · exact within
    · intro within
      by_cases member : position ∈ given (of todos findings).assigned
      · exact .inl member
      · exact .inr ⟨within, member⟩
  · apply List.nodup_append.mpr
    refine ⟨nodup_of todos findings, List.nodup_range.filter _, ?_⟩
    -- No position is both given and free.
    intro position member other free same
    subst same
    exact of_decide_eq_true (List.mem_filter.mp free).2 member

/-- The todos that findings have and those that are unmatched are all todos. -/
theorem given_append_unmatched (todos : List Todo) (findings : List Finding) :
    ((given (of todos findings).assigned).filterMap (todos[·]?) ++
      (of todos findings).unmatched todos).Perm todos := by
  have all := (given_append_free todos findings).filterMap (todos[·]?)
  rwa [List.filterMap_append, ← unmatched_of, filterMap_range] at all

end Pairing

namespace TodoStore

open Todo Effect Pairing

/--
The todos of a file are parted between the findings, of which each has at most one of its own rule,
file and text, and those that are stale because no finding is left that they match.
-/
structure Parted (live : List Todo) (path : String) (findings : List Finding)
    (owns : List (Option Todo)) (stale : List Todo) : Prop where
  aligned : owns.length = findings.length
  akin : ∀ finding todo, (finding, some todo) ∈ findings.zip owns →
    todo.rule = finding.rule ∧ sameFile todo.filePath finding.filePath = true ∧
      todo.source = finding.source
  exhausted : ∀ finding, (finding, none) ∈ findings.zip owns →
    ∀ todo ∈ stale, todo.matchesLoosely finding = false
  together : (owns.filterMap id ++ stale).Perm (todosIn live path)
  once : (owns.filterMap id ++ stale).Nodup
  inOrder : stale.Sublist (todosIn live path)
  total : owns.countP Option.isSome + stale.length = (todosIn live path).length

/-- No todo that matches a finding is stale where the finding has none. -/
theorem matchesLoosely_of_stale {live : List Todo} {path : String} {findings : List Finding}
    {finding : Finding} (left : (finding, none) ∈ findings.zip (ownTodos live path findings))
    {todo : Todo} (free : todo ∈ stale live path findings) :
    todo.matchesLoosely finding = false := by
  rcases ownTodo_cases left with ⟨_, unpaired⟩ | ⟨_, _, same, _⟩
  · obtain ⟨position, named, unused⟩ := exists_of_mem_unused free
    -- Had it matched, it would have been taken by the finding or by one before it.
    apply Bool.eq_false_iff.mpr
    intro matched
    have used := taken_of_unpaired unpaired named (matchesLoosely_iff.mp matched)
    rw [used] at unused
    simp at unused
  · exact nomatch same

/-- Pairing parts the todos of a file between its findings and the stale ones. -/
theorem parted_of_distinct {live : List Todo} (distinct : Distinct live) (path : String)
    (findings : List Finding) :
    Parted live path findings (ownTodos live path findings) (stale live path findings) := by
  have together : ((ownTodos live path findings).filterMap id ++
      stale live path findings).Perm (todosIn live path) := by
    rw [filterMap_ownTodos]
    exact given_append_unmatched (todosIn live path) findings
  refine ⟨length_ownTodos, ?_, ?_, together, ?_, ?_, ?_⟩
  · intro finding todo member
    rcases ownTodo_cases member with ⟨same, _⟩ | ⟨_, other, same, _, _, akin⟩
    · exact nomatch same
    · obtain rfl := Option.some.inj same
      simp only [Todo.kin, Finding.kin, Prod.mk.injEq] at akin
      exact ⟨akin.1, sameFile_iff.mpr akin.2.1, akin.2.2⟩
  · intro finding left todo free
    exact matchesLoosely_of_stale left free
  · -- No todo of a file stands twice, so none of them is parted twice.
    exact together.nodup_iff.mpr (nodup_todosIn distinct path)
  · exact unused_sublist (length_of (todosIn live path) findings).2
  · have sizes := together.length_eq
    rw [List.length_append, List.length_filterMap_eq_countP] at sizes
    simpa using sizes

/-- What is reported are the findings, each as its todo lets it count, and then the stale todos. -/
theorem reported_eq_append (live : List Todo) (path : String) (findings : List Finding)
    (cleanup overriding : Bool) (today : Date) :
    reported live path findings cleanup overriding today =
      findings.zipWith (coverWith today) (ownTodos live path findings) ++
        (if cleanup || overriding then [] else stale live path findings).map
          (staleFinding path) := by
  rw [reported_eq, coveredOn, zipWith_cover_eq]
  -- Stale todos are told only where they are neither dropped nor passed over.
  cases cleanup <;> cases overriding <;> simp

end TodoStore

end TemplateLint
