import Mathlib.Data.List.Induction
import Mathlib.Data.List.Perm.Subperm
import TemplateLint.Proofs.Todo.Reconcile

/-!
No assignment of todos to findings has more pairs than the pairing, and none has more pairs that
match exactly: of every kin and of every spot as many are paired as there can be.
-/

namespace TemplateLint

section Positions

variable {α β : Type}

/-- What is turned of some items of a list is some of what is turned of all. -/
theorem filterMap_subperm (turn : α → Option β) {items others : List α}
    (within : items.Subperm others) : (items.filterMap turn).Subperm (others.filterMap turn) := by
  obtain ⟨own, same, inside⟩ := within
  exact ⟨own.filterMap turn, same.filterMap turn, inside.filterMap turn⟩

/-- A list is what stands at its positions, in order. -/
theorem filterMap_range (items : List α) :
    (List.range items.length).filterMap (items[·]?) = items := by
  -- The last item stands at the last position, and it changes nothing about the ones before.
  induction items using List.reverseRecOn with
  | nil => rfl
  | append_singleton before last ih =>
    have earlier : (List.range before.length).filterMap ((before ++ [last])[·]?) =
        (List.range before.length).filterMap (before[·]?) := by
      refine List.filterMap_congr fun position member => ?_
      exact List.getElem?_append_left (List.mem_range.mp member)
    rw [List.length_append, List.length_singleton, List.range_succ, List.filterMap_append, earlier,
      ih]
    simp

/-- What stands at positions that differ are different items of a list. -/
theorem filterMap_getElem?_subperm (items : List α) {positions : List Nat}
    (once : positions.Nodup) : (positions.filterMap (items[·]?)).Subperm items := by
  -- Positions beyond the end name nothing, so only those before it count.
  have inside : positions.filterMap (items[·]?) =
      (positions.filter (· < items.length)).filterMap (items[·]?) := by
    rw [List.filterMap_filter]
    refine List.filterMap_congr fun position _ => ?_
    split
    · rfl
    · rename_i beyond
      exact List.getElem?_eq_none (by simpa using beyond)
  have within : (positions.filter (· < items.length)).Subperm (List.range items.length) := by
    refine List.subperm_of_subset (once.filter _) fun position member => ?_
    simpa using (List.mem_filter.mp member).2
  rw [inside]
  simpa [filterMap_range] using filterMap_subperm (items[·]?) within

end Positions

namespace Pairing

/--
Todos are assigned to findings: to each finding at most one, of the finding's kin, and none to two
findings.
-/
structure Assigns (todos : List Todo) (findings : List Finding) (assigned : List (Option Nat)) :
    Prop where
  aligned : assigned.length = findings.length
  akin : ∀ finding position, (finding, some position) ∈ findings.zip assigned →
    ∃ todo, todos[position]? = some todo ∧ todo.kin = finding.kin
  once : (given assigned).Nodup

/-- The findings that have a todo, each with its todo. -/
def partners (todos : List Todo) (findings : List Finding) (assigned : List (Option Nat)) :
    List (Finding × Todo) :=
  (findings.zip assigned).filterMap fun entry =>
    (entry.2.bind (todos[·]?)).map fun todo => (entry.1, todo)

variable {todos : List Todo} {findings : List Finding} {assigned after : List (Option Nat)}
  {taken last : List Bool}

/-- A finding that has no todo adds no pair. -/
@[simp] theorem partners_cons_none (todos : List Todo) (finding : Finding) (findings : List Finding)
    (assigned : List (Option Nat)) :
    partners todos (finding :: findings) (none :: assigned) = partners todos findings assigned :=
  rfl

/-- A finding that has a todo adds a pair. -/
theorem partners_cons_some {position : Nat} {todo : Todo} (named : todos[position]? = some todo)
    (finding : Finding) (findings : List Finding) (assigned : List (Option Nat)) :
    partners todos (finding :: findings) (some position :: assigned) =
      (finding, todo) :: partners todos findings assigned := by
  simp only [partners, List.zip_cons_cons, List.filterMap_cons, Option.bind_some, named,
    Option.map_some]

/-- A finding that has the position of no todo adds no pair. -/
theorem partners_cons_beyond {position : Nat} (beyond : todos[position]? = none)
    (finding : Finding) (findings : List Finding) (assigned : List (Option Nat)) :
    partners todos (finding :: findings) (some position :: assigned) =
      partners todos findings assigned := by
  simp only [partners, List.zip_cons_cons, List.filterMap_cons, Option.bind_some, beyond,
    Option.map_none]

/-- The findings of all pairs are findings in their order. -/
theorem partners_findings (todos : List Todo) (findings : List Finding)
    (assigned : List (Option Nat)) :
    ((partners todos findings assigned).map Prod.fst).Sublist findings := by
  induction findings generalizing assigned with
  | nil => simp [partners]
  | cons finding later ih =>
    cases assigned with
    | nil => simp [partners]
    | cons own rest =>
      -- A finding with a todo is a partner, and one without or with a place beyond the todos is
      -- passed over.
      cases own with
      | none => exact (ih rest).cons _
      | some position =>
        cases named : todos[position]? with
        | none =>
          rw [partners_cons_beyond named]
          exact (ih rest).cons _
        | some todo =>
          rw [partners_cons_some named, List.map_cons]
          exact (ih rest).cons_cons _

/-- The todos of all pairs stand at the positions that are given. -/
theorem partners_todos (aligned : assigned.length = findings.length) :
    (partners todos findings assigned).map Prod.snd = (given assigned).filterMap (todos[·]?) := by
  induction findings generalizing assigned with
  | nil =>
    obtain rfl : assigned = [] := by simpa using aligned
    rfl
  | cons finding later ih =>
    cases assigned with
    | nil => simp at aligned
    | cons own rest =>
      have inside := @ih rest (by simpa using aligned)
      -- Only what is given a place counts, on both sides.
      cases own with
      | none => exact inside
      | some position =>
        rw [given_cons_some, List.filterMap_cons]
        cases named : todos[position]? with
        | none => rw [partners_cons_beyond named, inside]
        | some todo => rw [partners_cons_some named, List.map_cons, inside]

/-- A finding and a todo are paired exactly where the finding has the todo's position. -/
theorem mem_partners {finding : Finding} {todo : Todo} :
    (finding, todo) ∈ partners todos findings assigned ↔
      ∃ position : Nat, (finding, some position) ∈ findings.zip assigned ∧
        todos[position]? = some todo := by
  simp only [partners, List.mem_filterMap, Option.map_eq_some_iff, Option.bind_eq_some_iff,
    Prod.mk.injEq]
  constructor
  · rintro ⟨⟨own, _⟩, member, _, ⟨position, rfl, named⟩, rfl, rfl⟩
    exact ⟨position, member, named⟩
  · rintro ⟨position, member, named⟩
    exact ⟨(finding, some position), member, todo, ⟨position, rfl, named⟩, rfl, rfl⟩

/-- How many pairs are there of which both sides have a key. -/
def partnersOf {κ : Type} [DecidableEq κ] (ofTodo : Todo → κ) (ofFinding : Finding → κ) (key : κ)
    (paired : List (Finding × Todo)) : Nat :=
  paired.countP fun pair => ofFinding pair.1 = key ∧ ofTodo pair.2 = key

section Keys

variable {κ : Type} [DecidableEq κ] {ofTodo : Todo → κ} {ofFinding : Finding → κ}

/-- Where all pairs agree on their keys, the keys of their findings count them. -/
theorem partnersOf_eq_count {paired : List (Finding × Todo)}
    (agree : ∀ pair ∈ paired, ofTodo pair.2 = ofFinding pair.1) (key : κ) :
    partnersOf ofTodo ofFinding key paired = (paired.map fun pair => ofFinding pair.1).count key := by
  rw [List.count, List.countP_map]
  refine List.countP_congr fun pair member => ?_
  simp only [Function.comp_apply, agree pair member, and_self, decide_eq_true_eq, beq_iff_eq]

/-- No more pairs have a key than there are todos and findings with it. -/
theorem Assigns.partnersOf_le (assigns : Assigns todos findings assigned) (key : κ) :
    partnersOf ofTodo ofFinding key (partners todos findings assigned) ≤
      min (todos.countP (ofTodo · = key)) (findings.countP (ofFinding · = key)) := by
  refine Nat.le_min.mpr ⟨?_, ?_⟩
  · -- No todo is in two pairs.
    have within : ((partners todos findings assigned).map Prod.snd).Subperm todos := by
      rw [partners_todos assigns.aligned]
      exact filterMap_getElem?_subperm todos assigns.once
    refine Nat.le_trans ?_ (within.countP_le _)
    rw [List.countP_map]
    exact List.countP_mono_left fun pair _ both => by simp_all
  · refine Nat.le_trans ?_ (partners_findings todos findings assigned).countP_le
    rw [List.countP_map]
    exact List.countP_mono_left fun pair _ both => by simp_all

/-- Lists of pairs that agree on their keys compare as the counts of all keys do. -/
theorem length_le_of_partnersOf_le {fewer more : List (Finding × Todo)}
    (agreeFewer : ∀ pair ∈ fewer, ofTodo pair.2 = ofFinding pair.1)
    (agreeMore : ∀ pair ∈ more, ofTodo pair.2 = ofFinding pair.1)
    (counts : ∀ key, partnersOf ofTodo ofFinding key fewer ≤ partnersOf ofTodo ofFinding key more) :
    fewer.length ≤ more.length := by
  have within : (fewer.map fun pair => ofFinding pair.1).Subperm
      (more.map fun pair => ofFinding pair.1) := by
    refine List.subperm_ext_iff.mpr fun key _ => ?_
    rw [← partnersOf_eq_count agreeFewer, ← partnersOf_eq_count agreeMore]
    exact counts key
  simpa using within.length_le

end Keys

/-- Todos whose positions are all given are all in pairs. -/
theorem todos_subperm_partners (aligned : after.length = findings.length)
    {wanted : Todo → Bool}
    (givenAll : ∀ position todo, todos[position]? = some todo → wanted todo = true →
      position ∈ given after) :
    (todos.filter wanted).Subperm ((partners todos findings after).map Prod.snd) := by
  -- Todos that are wanted are told by their places, which are given to findings.
  have inside : todos.filter wanted =
      ((List.range todos.length).filter fun position =>
        todos[position]?.any wanted).filterMap (todos[·]?) := by
    conv_lhs => rw [← filterMap_range todos]
    rw [List.filter_filterMap, List.filterMap_filter]
    refine List.filterMap_congr fun position _ => ?_
    cases todos[position]? with
    | none => simp
    | some todo => simp [Option.filter]
  rw [inside, partners_todos aligned]
  refine filterMap_subperm _ (List.subperm_of_subset (List.nodup_range.filter _) ?_)
  intro position member
  obtain ⟨todo, named, fits⟩ := (Option.any_eq_true _ _).mp (List.mem_filter.mp member).2
  exact givenAll position todo named fits

section Exhausted

variable {κ : Type} [DecidableEq κ] {ofTodo : Todo → κ} {ofFinding : Finding → κ}

/--
If every pair agrees on its key and a finding is left only where all todos of its key are given, as
many are paired of each key as there can be.
-/
theorem min_le_partnersOf (aligned : assigned.length = findings.length)
    (agree : ∀ finding position, (finding, some position) ∈ findings.zip assigned →
      ∃ todo, todos[position]? = some todo ∧ ofTodo todo = ofFinding finding)
    (exhausted : ∀ finding, (finding, none) ∈ findings.zip assigned →
      ∀ position todo, todos[position]? = some todo → ofTodo todo = ofFinding finding →
        position ∈ given assigned) (key : κ) :
    min (todos.countP (ofTodo · = key)) (findings.countP (ofFinding · = key)) ≤
      partnersOf ofTodo ofFinding key (partners todos findings assigned) := by
  by_cases left : ∃ finding, (finding, none) ∈ findings.zip assigned ∧ ofFinding finding = key
  · -- A finding is left, so all todos of the key are in pairs.
    obtain ⟨finding, unpaired, own⟩ := left
    have within := @todos_subperm_partners todos findings assigned aligned (ofTodo · = key)
      fun position todo named same => exhausted finding unpaired position todo named
        ((of_decide_eq_true same).trans own.symm)
    refine Nat.le_trans (Nat.min_le_left _ _) ?_
    calc todos.countP (ofTodo · = key)
        = (todos.filter (ofTodo · = key)).countP (ofTodo · = key) := by simp [List.countP_filter]
      _ ≤ ((partners todos findings assigned).map Prod.snd).countP (ofTodo · = key) :=
          within.countP_le _
      _ = partnersOf ofTodo ofFinding key (partners todos findings assigned) := by
          rw [List.countP_map]
          refine List.countP_congr fun pair member => ?_
          obtain ⟨position, place, named⟩ := mem_partners.mp member
          obtain ⟨todo, again, same⟩ := agree _ _ place
          obtain rfl := Option.some.inj (named.symm.trans again)
          simp [same]
  · -- Every finding of the key has a todo.
    have all : findings = (findings.zip assigned).map Prod.fst :=
      (List.map_fst_zip (Nat.le_of_eq aligned.symm)).symm
    refine Nat.le_trans (Nat.min_le_right _ _) ?_
    conv_lhs => rw [all, List.countP_map]
    rw [partnersOf, partners, List.countP_filterMap]
    refine List.countP_mono_left ?_
    rintro ⟨finding, own⟩ member same
    have finding_key : ofFinding finding = key := by simpa using same
    cases own with
    | none => exact absurd ⟨finding, member, finding_key⟩ left
    | some position =>
      obtain ⟨todo, place, todo_key⟩ := agree finding position member
      simp [place, finding_key, todo_key]

end Exhausted

namespace Passed

variable {test : Todo → Finding → Bool}

/-- What is paired before a pass is paired after it. -/
theorem partners_sublist (passed : Passed test todos findings assigned taken after last) :
    (partners todos findings assigned).Sublist (partners todos findings after) := by
  -- A pass keeps the pairs it was given and puts new ones between them.
  induction passed with
  | done => exact List.Sublist.refl _
  | @keep _ _ position _ _ _ _ later ih =>
    cases named : todos[position]? with
    | none => simpa only [partners_cons_beyond named] using ih
    | some todo => simpa only [partners_cons_some named] using ih.cons_cons _
  | take named free matched later ih =>
    rw [partners_cons_some named]
    exact ih.cons _
  | leave unmatched later ih => exact ih

/-- What is given before a pass is given after it. -/
theorem given_sublist (passed : Passed test todos findings assigned taken after last) :
    (given assigned).Sublist (given after) := by
  induction passed with
  | done => exact List.Sublist.refl _
  | keep later ih => exact ih.cons_cons _
  | take named free matched later ih => exact ih.cons _
  | leave unmatched later ih => exact ih

/-- After a first pass what is taken is given. -/
theorem given_of_taken
    (passed : Passed test todos findings (findings.map fun _ => none) (todos.map fun _ => false)
      after last) {position : Nat} (used : last[position]? = some true) :
    position ∈ given after := by
  rcases passed.taken_before_or_given used with never | ⟨_, _, paired, _⟩
  · rw [List.getElem?_map] at never
    cases todos[position]? <;> simp at never
  · exact mem_given.mpr (List.of_mem_zip paired).2

end Passed

/-- A todo is taken exactly when its position is given. -/
theorem taken_iff_given (todos : List Todo) (findings : List Finding) (position : Nat) :
    (of todos findings).taken[position]? = some true ↔
      position ∈ given (of todos findings).assigned := by
  constructor
  · intro used
    have loose := passed_loosely todos findings
    rcases loose.taken_before_or_given used with before | ⟨_, _, paired, _⟩
    · -- What the exact pass gives the loose one keeps.
      exact loose.given_sublist.subset ((passed_exactly todos findings).given_of_taken before)
    · exact mem_given.mpr (List.of_mem_zip paired).2
  · exact taken_of_given todos findings position

/-- The todos that are unmatched are those whose positions are not given, in their order. -/
theorem unmatched_of (todos : List Todo) (findings : List Finding) :
    (of todos findings).unmatched todos =
      ((List.range todos.length).filter fun position =>
        position ∉ given (of todos findings).assigned).filterMap (todos[·]?) := by
  have sized : (todos.zip (of todos findings).taken).length = todos.length := by
    rw [List.length_zip, (length_of todos findings).2, Nat.min_self]
  rw [unmatched, ← filterMap_range (todos.zip (of todos findings).taken), sized,
    List.filter_filterMap, List.map_filterMap, List.filterMap_filter]
  refine List.filterMap_congr fun position member => ?_
  -- At every position stand a todo and its mark, and the mark says whether the todo is given.
  have within : position < todos.length := List.mem_range.mp member
  have marked : position < (of todos findings).taken.length := by
    rwa [(length_of todos findings).2]
  have mark := taken_iff_given todos findings position
  rw [List.getElem?_eq_getElem marked, Option.some.injEq] at mark
  have both : (todos.zip (of todos findings).taken)[position]? =
      some (todos[position], (of todos findings).taken[position]) :=
    List.getElem?_zip_eq_some.mpr
      ⟨List.getElem?_eq_getElem within, List.getElem?_eq_getElem marked⟩
  rw [both, List.getElem?_eq_getElem within]
  cases used : (of todos findings).taken[position] with
  | true => simp [Option.filter, mark.mp used]
  | false =>
    have free : position ∉ given (of todos findings).assigned := by
      rw [← mark, used]
      simp
    simp [Option.filter, free]

/-- The pairing assigns todos to findings. -/
theorem assigns_of (todos : List Todo) (findings : List Finding) :
    Assigns todos findings (of todos findings).assigned where
  aligned := (length_of todos findings).1
  akin _ _ paired := kin_of_assigned paired
  once := nodup_of todos findings

/-- Of every spot as many findings and todos are paired with each other as there can be. -/
theorem partnersOf_spot (todos : List Todo) (findings : List Finding)
    (spot : String × String × UInt64 × UInt64 × String) :
    partnersOf Todo.spot Finding.spot spot
        (partners todos findings (of todos findings).assigned) =
      min (todos.countP (·.spot = spot)) (findings.countP (·.spot = spot)) := by
  obtain ⟨assigned, taken, exact, loose⟩ := passed_of todos findings
  refine Nat.le_antisymm ((assigns_of todos findings).partnersOf_le spot) ?_
  -- The exact pass pairs that many, and the loose one keeps its pairs.
  refine Nat.le_trans (min_le_partnersOf exact.length_assigned ?_ ?_ spot)
    loose.partners_sublist.countP_le
  · exact exact.pairs _ (fun _ _ never => by simpa using (List.of_mem_zip never).2)
      fun _ _ todo named matched => ⟨todo, named, Todo.matchesExactly_iff.mp matched⟩
  · intro finding left position todo named same
    exact exact.given_of_taken
      (exact.taken_of_left (by simp) left named (Todo.matchesExactly_iff.mpr same))

/-- Of every kin as many findings and todos are paired with each other as there can be. -/
theorem partnersOf_kin (todos : List Todo) (findings : List Finding)
    (kin : String × String × String) :
    partnersOf Todo.kin Finding.kin kin (partners todos findings (of todos findings).assigned) =
      min (todos.countP (·.kin = kin)) (findings.countP (·.kin = kin)) := by
  have assigns := assigns_of todos findings
  refine Nat.le_antisymm (assigns.partnersOf_le kin) ?_
  refine min_le_partnersOf assigns.aligned assigns.akin ?_ kin
  intro finding left position todo named same
  exact (taken_iff_given todos findings position).mp (taken_of_unpaired left named same)

/-- Every pair of an assignment is of one kin. -/
theorem Assigns.kin_eq (assigns : Assigns todos findings assigned) :
    ∀ pair ∈ partners todos findings assigned, pair.2.kin = pair.1.kin := by
  intro pair member
  obtain ⟨position, place, named⟩ := mem_partners.mp member
  obtain ⟨todo, own, same⟩ := assigns.akin _ _ place
  obtain rfl : todo = pair.2 := Option.some.inj (own.symm.trans named)
  exact same

/-- The pairs that match exactly. -/
def exactPartners (todos : List Todo) (findings : List Finding) (assigned : List (Option Nat)) :
    List (Finding × Todo) :=
  (partners todos findings assigned).filter fun pair => pair.2.matchesExactly pair.1

/-- Pairs of one spot match exactly, so the other pairs do not count for a spot. -/
theorem partnersOf_exactPartners (todos : List Todo) (findings : List Finding)
    (assigned : List (Option Nat)) (spot : String × String × UInt64 × UInt64 × String) :
    partnersOf Todo.spot Finding.spot spot (exactPartners todos findings assigned) =
      partnersOf Todo.spot Finding.spot spot (partners todos findings assigned) := by
  rw [partnersOf, exactPartners, List.countP_filter]
  refine List.countP_congr fun pair _ => ?_
  simp only [Bool.and_eq_true, decide_eq_true_eq, and_iff_left_iff_imp, and_imp]
  exact fun finding todo => Todo.matchesExactly_iff.mpr (todo.trans finding.symm)

/-- The pairs that match exactly are of one spot each. -/
theorem spot_eq_of_mem_exactPartners :
    ∀ pair ∈ exactPartners todos findings assigned, pair.2.spot = pair.1.spot :=
  fun _ member => Todo.matchesExactly_iff.mp (List.mem_filter.mp member).2

/-- No assignment has more pairs than the pairing, nor more pairs that match exactly. -/
theorem of_most (todos : List Todo) (findings : List Finding)
    (assigns : Assigns todos findings assigned) :
    (partners todos findings assigned).length ≤
        (partners todos findings (of todos findings).assigned).length ∧
      (exactPartners todos findings assigned).length ≤
        (exactPartners todos findings (of todos findings).assigned).length := by
  -- Partners are counted for each kin, and exact ones for each spot; in each of these classes no
  -- pairing has more.
  constructor
  · refine length_le_of_partnersOf_le assigns.kin_eq (assigns_of todos findings).kin_eq ?_
    intro kin
    rw [partnersOf_kin]
    exact assigns.partnersOf_le kin
  · refine length_le_of_partnersOf_le spot_eq_of_mem_exactPartners
      spot_eq_of_mem_exactPartners ?_
    intro spot
    rw [partnersOf_exactPartners, partnersOf_exactPartners, partnersOf_spot]
    exact assigns.partnersOf_le spot

/--
Pairing assigns to each finding at most one todo, of the same rule, file and text, and no todo to
two findings; the todos that are unmatched are the others, in their order. Of every spot and of
every kin as many are paired with each other as there can be, so that no assignment has more pairs,
and none has more that match exactly.
-/
theorem of_optimal (todos : List Todo) (findings : List Finding) :
    Assigns todos findings (of todos findings).assigned ∧
    (of todos findings).unmatched todos =
      ((List.range todos.length).filter fun position =>
        position ∉ given (of todos findings).assigned).filterMap (todos[·]?) ∧
    (∀ spot, partnersOf Todo.spot Finding.spot spot
        (partners todos findings (of todos findings).assigned) =
      min (todos.countP (·.spot = spot)) (findings.countP (·.spot = spot))) ∧
    (∀ kin, partnersOf Todo.kin Finding.kin kin
        (partners todos findings (of todos findings).assigned) =
      min (todos.countP (·.kin = kin)) (findings.countP (·.kin = kin))) ∧
    ∀ other, Assigns todos findings other →
      (partners todos findings other).length ≤
          (partners todos findings (of todos findings).assigned).length ∧
        (exactPartners todos findings other).length ≤
          (exactPartners todos findings (of todos findings).assigned).length :=
  ⟨assigns_of todos findings, unmatched_of todos findings, partnersOf_spot todos findings,
    partnersOf_kin todos findings, fun _ assigns => of_most todos findings assigns⟩

/-- A finding takes the todo of its own line, and to give it the first one would serve it worse. -/
theorem of_optimal_sample :
    let todos := [TodoStore.sampleTodo 1, TodoStore.sampleTodo 2]
    let findings := [TodoStore.sampleFinding "no-tabs" .error 2]
    (of todos findings).assigned = [some 1] ∧ Assigns todos findings [some 0] ∧
      (exactPartners todos findings [some 0]).length <
        (exactPartners todos findings (of todos findings).assigned).length ∧
      (partners todos findings [some 0]).length ≤
        (partners todos findings (of todos findings).assigned).length := by
  have assigns : Assigns [TodoStore.sampleTodo 1, TodoStore.sampleTodo 2]
      [TodoStore.sampleFinding "no-tabs" .error 2] [some 0] := by
    refine ⟨rfl, ?_, by decide⟩
    intro finding position paired
    obtain ⟨rfl, rfl⟩ : finding = TodoStore.sampleFinding "no-tabs" .error 2 ∧ position = 0 := by
      simpa using paired
    exact ⟨TodoStore.sampleTodo 1, rfl, by decide +kernel⟩
  have all := of_optimal [TodoStore.sampleTodo 1, TodoStore.sampleTodo 2]
    [TodoStore.sampleFinding "no-tabs" .error 2]
  exact ⟨by decide +kernel, assigns, by decide +kernel, (all.2.2.2.2 _ assigns).1⟩

end Pairing

end TemplateLint
