import TemplateLint.Proofs.Todo.Pairing
import TemplateLint.Proofs.Todo.Store

/-!
After an update a file has as many live todos of every kin as it has errors of it, and where that
is so neither another update nor a report has anything left to make, to drop or to complain about.
-/

namespace TemplateLint

/-- Dots that are stripped are gone for good. -/
theorem stripDots_stripDots (afterDot : Bool) (path : List Char) :
    stripDots false (stripDots afterDot path) = stripDots afterDot path := by
  -- The recursion ends at a text that opens neither with a dot and a slash nor with a slash.
  induction afterDot, path using stripDots.induct with
  | case1 afterDot rest ih => rw [stripDots, ih]
  | case2 rest ih => simpa [stripDots] using ih
  | case3 afterDot rest noDot => simp [stripDots, noDot]
  | case4 afterDot path noDot noSlash =>
    have same (flag : Bool) : stripDots flag path = path := by
      rw [stripDots]
      · exact noDot
      · exact noSlash
    rw [same, same]

/-- The path that todos are kept under is kept under itself. -/
theorem storageKey_storageKey (path : String) : storageKey (storageKey path) = storageKey path := by
  simp only [storageKey, String.toList_ofList, stripDots_stripDots]

/-- Two paths spell one file exactly when their todos are kept under one path. -/
theorem sameFile_iff {first second : String} :
    sameFile first second = true ↔ storageKey first = storageKey second := by
  simp [sameFile]

namespace Todo

/-- A todo that is made of a finding is of its kin. -/
theorem kin_ofFinding (engine : String) (decay : Decay) (today : Date) (finding : Finding) :
    (ofFinding engine decay today finding).kin = finding.kin := by
  simp [kin, ofFinding, Finding.kin, storageKey_storageKey]

/-- A todo that is made of a finding is of its spot. -/
theorem spot_ofFinding (engine : String) (decay : Decay) (today : Date) (finding : Finding) :
    (ofFinding engine decay today finding).spot = finding.spot := by
  simp [spot, ofFinding, Finding.spot, storageKey_storageKey]

/-- Todos of one identity are of one spot. -/
theorem spot_eq_of_identity {first second : Todo} (same : first.identity = second.identity) :
    first.spot = second.spot := by
  simp only [identity, Prod.mk.injEq] at same
  simp only [spot, Prod.mk.injEq]
  exact same.2

end Todo

namespace Pairing

open Todo

/-- Among todos that are told apart, those that are not free are the ones that are taken. -/
theorem filter_not_unused {todos : List Todo} {taken : List Bool} (distinct : Distinct todos)
    (sized : taken.length = todos.length) :
    (todos.filter fun todo => decide (todo.identity ∉ (unused todos taken).map identity)) =
      used todos taken := by
  -- A later todo is told apart from the first, so the first one's fate does not touch it.
  induction todos generalizing taken with
  | nil => rfl
  | cons todo later ih =>
    cases taken with
    | nil => simp at sized
    | cons own others =>
      simp only [Distinct, List.map_cons, List.nodup_cons] at distinct
      have rest := ih distinct.2 (by simpa using sized)
      have below : ∀ other ∈ unused later others, other ∈ later := by
        intro other member
        obtain ⟨position, named, _⟩ := exists_of_mem_unused member
        exact List.mem_of_getElem? named
      cases own with
      | true =>
        -- A todo that is taken is none of the free ones, which are of other identities.
        have kept : todo.identity ∉ (unused later others).map identity := by
          intro member
          obtain ⟨other, inside, same⟩ := List.mem_map.mp member
          exact distinct.1 (List.mem_map.mpr ⟨other, below other inside, same⟩)
        rw [unused_cons_true, used_cons_true, List.filter_cons_of_pos (by simpa using kept), rest]
      | false =>
        rw [unused_cons_false, used_cons_false,
          List.filter_cons_of_neg (by simp [List.map_cons]), ← rest]
        refine List.filter_congr ?_
        intro other member
        have apart : other.identity ≠ todo.identity := by
          intro same
          exact distinct.1 (List.mem_map.mpr ⟨other, member, same⟩)
        simp [apart]

end Pairing

namespace TodoStore

open Todo Effect Pairing

/-- The errors among findings. -/
def errorsOf (findings : List Finding) : List Finding :=
  findings.filter (·.severity = .error)

/-- The todos that an update makes. -/
def fresh (store : TodoStore) (live : List Todo) (path : String) (findings : List Finding)
    (decay : Decay) (today : Date) : List Todo :=
  (uncovered (errorsOf findings)
    (of (todosIn live path) (errorsOf findings)).assigned).map
      (ofFinding store.engine decay today)

/-- The todos of a file that no error of it needs. -/
def needless (live : List Todo) (path : String) (findings : List Finding) : List Todo :=
  unused (todosIn live path) (of (todosIn live path) (errorsOf findings)).taken

/-- An update adds the todos that it makes and, unless rules are overridden, removes the needless. -/
theorem updates_eq (store : TodoStore) (live : List Todo) (path : String)
    (findings : List Finding) (decay : Decay) (overriding : Bool) (today : Date) :
    store.updates (todosIn live path) (findings.filter (·.severity = .error)) decay overriding
        today =
      ((store.fresh live path findings decay today).map .add,
        if overriding then [] else (needless live path findings).map .remove) := by
  simp only [updates, fresh, needless, errorsOf, uncovered, unused, unmatched, List.map_map]
  rfl

/-- The errors belong to one file, and no two of them are of one rule, place and source. -/
structure Separate (path : String) (findings : List Finding) : Prop where
  sameFile : ∀ finding ∈ findings, finding.severity = .error →
    storageKey finding.filePath = storageKey path
  apart : ((errorsOf findings).map fun finding =>
    (finding.rule, finding.line, finding.column, finding.source)).Nodup

/-- Errors that are separate are of different spots. -/
theorem Separate.spots {path : String} {findings : List Finding}
    (separate : Separate path findings) : ((errorsOf findings).map Finding.spot).Nodup := by
  have apart := separate.apart
  simp only [List.Nodup, List.pairwise_map] at apart ⊢
  refine apart.imp ?_
  intro first second differ same
  simp only [Finding.spot, Prod.mk.injEq] at same
  exact differ (by simp [same])

/-- A todo that an update makes is of the file. -/
theorem key_of_mem_fresh {store : TodoStore} {live : List Todo} {path : String}
    {findings : List Finding} (separate : Separate path findings) {decay : Decay} {today : Date}
    {todo : Todo} (member : todo ∈ store.fresh live path findings decay today) :
    storageKey todo.filePath = storageKey path := by
  obtain ⟨finding, inside, rfl⟩ := List.mem_map.mp member
  have found := (List.of_mem_zip (mem_zip_of_mem_uncovered inside)).1
  simp only [errorsOf, List.mem_filter, decide_eq_true_eq] at found
  rw [ofFinding, storageKey_storageKey]
  exact separate.sameFile finding found.1 found.2

/-- The todos that an update makes are told apart from each other and from those that are live. -/
theorem distinct_fresh {store : TodoStore} {live : List Todo} {path : String}
    {findings : List Finding} (separate : Separate path findings) (distinct : Distinct live)
    (decay : Decay) (today : Date) :
    Distinct (live ++ store.fresh live path findings decay today) := by
  simp only [Distinct, List.map_append]
  refine List.nodup_append.mpr ⟨distinct, ?_, ?_⟩
  · -- Errors are of different spots, and so are the todos made of some of them.
    have some : (uncovered (errorsOf findings)
        (of (todosIn live path) (errorsOf findings)).assigned).Sublist (errorsOf findings) := by
      have zipped := List.filter_sublist (p := fun pair : Finding × Option Nat => pair.2.isNone)
        (l := (errorsOf findings).zip (of (todosIn live path) (errorsOf findings)).assigned)
      have cut := zipped.map Prod.fst
      rw [List.map_fst_zip (Nat.le_of_eq (length_of _ _).1.symm)] at cut
      exact cut
    have spots := separate.spots.sublist (some.map Finding.spot)
    simp only [List.Nodup, List.pairwise_map, fresh] at spots ⊢
    refine spots.imp ?_
    intro first second differ same
    have one := spot_eq_of_identity same
    rw [spot_ofFinding, spot_ofFinding] at one
    exact differ one
  · -- A live todo of the identity would be of the file and of the error's very spot.
    intro name member other inside equal
    subst equal
    obtain ⟨todo, isLive, rfl⟩ := List.mem_map.mp member
    obtain ⟨made, isMade, same⟩ := List.mem_map.mp inside
    have key := key_of_mem_fresh separate isMade
    have spot := spot_eq_of_identity same
    have keys : storageKey todo.filePath = storageKey path := by
      simp only [Todo.spot, Prod.mk.injEq] at spot
      rw [← spot.2.1, key]
    have ofFile : todo ∈ todosIn live path :=
      List.mem_filter.mpr ⟨isLive, sameFile_iff.mpr keys⟩
    obtain ⟨finding, left, rfl⟩ := List.mem_map.mp isMade
    rw [spot_ofFinding] at spot
    exact spot_ne_of_unpaired separate.spots (mem_zip_of_mem_uncovered left) todo ofFile spot.symm

/-- A needless todo is one of the file's live ones. -/
theorem mem_of_mem_needless {live : List Todo} {path : String} {findings : List Finding}
    {todo : Todo} (member : todo ∈ needless live path findings) : todo ∈ todosIn live path := by
  obtain ⟨position, named, _⟩ := exists_of_mem_unused member
  exact List.mem_of_getElem? named

/-- The live todos after an update: those before and the new ones, without the needless. -/
theorem applyAll_update {store : TodoStore} {live : List Todo} {path : String}
    {findings : List Finding} (separate : Separate path findings) (distinct : Distinct live)
    (decay : Decay) (today : Date) :
    applyAll live ((store.fresh live path findings decay today).map .add ++
        (needless live path findings).map .remove) =
      (live ++ store.fresh live path findings decay today).filter fun todo =>
        decide (todo.identity ∉ (needless live path findings).map identity) := by
  rw [applyAll_append, applyAll_add (distinct_fresh separate distinct decay today),
    applyAll_remove]

/-- Of the file's todos an update keeps those that are needed, and puts the new ones after them. -/
theorem todosIn_update {store : TodoStore} {live : List Todo} {path : String}
    {findings : List Finding} (separate : Separate path findings) (distinct : Distinct live)
    (decay : Decay) (today : Date) :
    todosIn (applyAll live ((store.fresh live path findings decay today).map .add ++
        (needless live path findings).map .remove)) path =
      used (todosIn live path) (of (todosIn live path) (errorsOf findings)).taken ++
        store.fresh live path findings decay today := by
  have ofFile := distinct_todosIn distinct path
  have kept := filter_not_unused ofFile (length_of (todosIn live path) (errorsOf findings)).2
  -- A new todo is none of those that are dropped, since these are live already.
  have together : Distinct (live ++ store.fresh live path findings decay today) :=
    distinct_fresh separate distinct decay today
  simp only [Distinct, List.map_append] at together
  have apart := List.nodup_append.mp together
  have staysNew : (store.fresh live path findings decay today).filter (fun todo =>
      decide (todo.identity ∉ (needless live path findings).map identity)) =
        store.fresh live path findings decay today := by
    refine List.filter_eq_self.mpr ?_
    intro todo member
    simp only [decide_eq_true_eq]
    intro dropped
    obtain ⟨other, inside, same⟩ := List.mem_map.mp dropped
    have isLive := (List.mem_filter.mp (mem_of_mem_needless inside)).1
    exact apart.2.2 _ (List.mem_map_of_mem isLive) _ (List.mem_map_of_mem member) same
  -- All new todos are of the file.
  have allOfFile : (store.fresh live path findings decay today).filter
      (fun todo => sameFile todo.filePath path) = store.fresh live path findings decay today := by
    refine List.filter_eq_self.mpr ?_
    intro todo member
    exact sameFile_iff.mpr (key_of_mem_fresh separate member)
  rw [applyAll_update separate distinct, List.filter_append, staysNew, todosIn,
    List.filter_append, allOfFile, List.filter_filter]
  congr 1
  rw [← kept, todosIn, List.filter_filter]
  refine List.filter_congr ?_
  intro todo _
  exact Bool.and_comm _ _

/-- A file has as many live todos of every kin as there are errors of it. -/
def Settled (live : List Todo) (path : String) (findings : List Finding) : Prop :=
  ∀ kin, todosOfKin kin (todosIn live path) = findingsOfKin kin (errorsOf findings)

/-- An update that overrides no rules settles its file. -/
theorem settled_update {store : TodoStore} {live : List Todo} {path : String}
    {findings : List Finding} (separate : Separate path findings) (distinct : Distinct live)
    (decay : Decay) (today : Date) :
    Settled (applyAll live ((store.fresh live path findings decay today).map .add ++
      (needless live path findings).map .remove)) path findings := by
  intro kin
  rw [todosIn_update separate distinct]
  -- The todos that stay are as many as the errors that have one, the new as many as the others.
  have stay := balance_of (todosIn live path) (errorsOf findings) kin
  have all := covered_add_uncovered kin (length_of (todosIn live path) (errorsOf findings)).1
  have new : todosOfKin kin (store.fresh live path findings decay today) =
      findingsOfKin kin (uncovered (errorsOf findings)
        (of (todosIn live path) (errorsOf findings)).assigned) := by
    simp only [todosOfKin, findingsOfKin, fresh, List.countP_map]
    refine List.countP_congr ?_
    intro finding _
    simp [kin_ofFinding]
  have sum : ∀ first second : List Todo, todosOfKin kin (first ++ second) =
      todosOfKin kin first + todosOfKin kin second := fun _ _ => List.countP_append
  rw [sum]
  omega

/-- No finding of any kin is no finding at all. -/
theorem eq_nil_of_findingsOfKin {findings : List Finding}
    (none : ∀ kin, findingsOfKin kin findings = 0) : findings = [] := by
  cases findings with
  | nil => rfl
  | cons finding later =>
    have one := none finding.kin
    simp at one

/-- No todo of any kin is no todo at all. -/
theorem eq_nil_of_todosOfKin {todos : List Todo} (none : ∀ kin, todosOfKin kin todos = 0) :
    todos = [] := by
  cases todos with
  | nil => rfl
  | cons todo later =>
    have one := none todo.kin
    simp at one

/-- A file that is settled needs no new todo and has no needless one. -/
theorem updates_of_settled {live : List Todo} {path : String} {findings : List Finding}
    (settled : Settled live path findings) (store : TodoStore) (decay : Decay)
    (overriding : Bool) (today : Date) :
    store.updates (todosIn live path) (findings.filter (·.severity = .error)) decay overriding
      today = ([], []) := by
  obtain ⟨allErrors, allTodos⟩ := length_of (todosIn live path) (errorsOf findings)
  -- As many todos as errors of a kin leave no error of it without one.
  have everyError : uncovered (errorsOf findings)
      (of (todosIn live path) (errorsOf findings)).assigned = [] := by
    apply eq_nil_of_findingsOfKin
    intro kin
    have paired := paired_of_kin (todosIn live path) (errorsOf findings) kin
    have parts := covered_add_uncovered kin allErrors
    have same := settled kin
    omega
  -- Likewise as many errors as todos of a kin leave none of its todos free.
  have everyTodo : needless live path findings = [] := by
    apply eq_nil_of_todosOfKin
    intro kin
    have paired := paired_of_kin (todosIn live path) (errorsOf findings) kin
    have balance := balance_of (todosIn live path) (errorsOf findings) kin
    have parts := used_add_unused kin allTodos
    have same := settled kin
    simp only [needless]
    omega
  rw [updates_eq, fresh, everyError, everyTodo]
  cases overriding <;> rfl

/-- Findings of one rule are of one severity. -/
def Uniform (findings : List Finding) : Prop :=
  ∀ one ∈ findings, ∀ other ∈ findings, one.rule = other.rule → one.severity = other.severity

/-- Of a kin that has an error, all findings are errors. -/
theorem findingsOfKin_errorsOf {findings : List Finding} (uniform : Uniform findings)
    {error : Finding} (member : error ∈ findings) (isError : error.severity = .error) :
    findingsOfKin error.kin (errorsOf findings) = findingsOfKin error.kin findings := by
  simp only [findingsOfKin, errorsOf, List.countP_filter]
  refine List.countP_congr ?_
  intro finding inside
  simp only [Bool.and_eq_true, decide_eq_true_eq, and_iff_left_iff_imp]
  -- A kin names the rule, and all findings of a rule are of one severity.
  intro akin
  simp only [Finding.kin, Prod.mk.injEq] at akin
  rw [uniform finding inside error member akin.1, isError]

/-- In a settled file every todo is given to a finding, and exactly the errors have one. -/
theorem paired_of_settled {live : List Todo} {path : String} {findings : List Finding}
    (settled : Settled live path findings) (uniform : Uniform findings) :
    (of (todosIn live path) findings).unmatched (todosIn live path) = [] ∧
      ∀ finding own, (finding, own) ∈ findings.zip (of (todosIn live path) findings).assigned →
        (own.isSome = true ↔ finding.severity = .error) := by
  obtain ⟨allFindings, allTodos⟩ := length_of (todosIn live path) findings
  have fewer : ∀ kin, findingsOfKin kin (errorsOf findings) ≤ findingsOfKin kin findings :=
    fun kin => List.filter_sublist.countP_le
  refine ⟨?_, ?_⟩
  · show unused _ _ = []
    apply eq_nil_of_todosOfKin
    intro kin
    have paired := paired_of_kin (todosIn live path) findings kin
    have balance := balance_of (todosIn live path) findings kin
    have parts := used_add_unused kin allTodos
    have same := settled kin
    have bound := fewer kin
    omega
  · intro finding own member
    have inside := (List.of_mem_zip member).1
    constructor
    · -- A todo of the finding's kin is there because an error of the kin is.
      intro some
      obtain ⟨position, rfl⟩ := Option.isSome_iff_exists.mp some
      obtain ⟨todo, named, akin⟩ := kin_of_assigned member
      have counted : 0 < todosOfKin finding.kin (todosIn live path) :=
        List.countP_pos_iff.mpr ⟨todo, List.mem_of_getElem? named, by simpa using akin⟩
      rw [settled finding.kin] at counted
      obtain ⟨error, isError, same⟩ := List.countP_pos_iff.mp counted
      simp only [errorsOf, List.mem_filter, decide_eq_true_eq] at isError same
      simp only [Finding.kin, Prod.mk.injEq] at same
      rw [← isError.2]
      exact uniform finding inside error isError.1 same.1.symm
    · -- All findings of an error's kin are errors, and there are todos for all of these.
      intro isError
      cases own with
      | some position => rfl
      | none =>
        have paired := paired_of_kin (todosIn live path) findings finding.kin
        have parts := covered_add_uncovered finding.kin allFindings
        have same := settled finding.kin
        rw [findingsOfKin_errorsOf uniform inside isError] at same
        have left : finding ∈ uncovered findings (of (todosIn live path) findings).assigned :=
          List.mem_map.mpr ⟨(finding, none), List.mem_filter.mpr ⟨member, rfl⟩, rfl⟩
        have counted : 0 < findingsOfKin finding.kin
            (uncovered findings (of (todosIn live path) findings).assigned) :=
          List.countP_pos_iff.mpr ⟨finding, left, by simp⟩
        omega

/-- A finding as a todo that covers it lets it count, or as it is. -/
def coverWith (today : Date) (finding : Finding) : Option Todo → Finding
  | some todo => { finding with severity := todo.severityOn today }
  | none => finding

/--
The findings are reported each once and in order: every error with the severity of a live todo of
its own, which is of its rule, file and source, and every other finding as it is.
-/
def ReportedByTodos (live : List Todo) (path : String) (findings : List Finding) (today : Date)
    (reported : List Finding) : Prop :=
  ∃ owns : List (Option Todo),
    owns.length = findings.length ∧
    reported = findings.zipWith (coverWith today) owns ∧
    (owns.filterMap id).Nodup ∧
    (∀ todo ∈ owns.filterMap id, todo ∈ live ∧ sameFile todo.filePath path = true) ∧
    ∀ finding own, (finding, own) ∈ findings.zip owns →
      if finding.severity = .error then
        ∃ todo, own = some todo ∧ todo.rule = finding.rule ∧
          sameFile todo.filePath finding.filePath = true ∧ todo.source = finding.source
      else own = none

/-- A todo that a finding is reported by is one of its file. -/
theorem mem_todosIn_of_paired {live : List Todo} {path : String} {findings : List Finding}
    {owns : List (Option Todo)}
    (known : ∀ todo ∈ owns.filterMap id, todo ∈ live ∧ sameFile todo.filePath path = true)
    {finding : Finding} {todo : Todo} (paired : (finding, some todo) ∈ findings.zip owns) :
    todo ∈ todosIn live path := by
  have inside : todo ∈ owns.filterMap id :=
    List.mem_filterMap.mpr ⟨some todo, (List.of_mem_zip paired).2, rfl⟩
  exact List.mem_filter.mpr (known todo inside)

/-- No todo of a file stands twice. -/
theorem nodup_todosIn {live : List Todo} (distinct : Distinct live) (path : String) :
    (todosIn live path).Nodup := by
  have names := distinct_todosIn distinct path
  simp only [Distinct, List.Nodup, List.pairwise_map] at names ⊢
  exact names.imp fun differ same => differ (by rw [same])

/-- Different positions among different todos are those of different todos. -/
theorem nodup_named {todos : List Todo} {positions : List Nat} (apart : todos.Nodup)
    (once : positions.Nodup) : (positions.filterMap (todos[·]?)).Nodup := by
  rw [List.Nodup, List.pairwise_filterMap]
  refine once.imp ?_
  intro first second differ todo named other otherNamed same
  subst same
  have within := (List.getElem?_eq_some_iff.mp named).1
  exact differ ((List.getElem?_inj within apart).mp (named.trans otherNamed.symm))

/-- The todo of each finding of a file, where it has one. -/
def ownTodos (live : List Todo) (path : String) (findings : List Finding) : List (Option Todo) :=
  -- A finding that has a position has the todo that stands there.
  (of (todosIn live path) findings).assigned.map fun own => own.bind ((todosIn live path)[·]?)

section OwnTodos

variable {live : List Todo} {path : String} {findings : List Finding}

/-- Every finding has its place. -/
theorem length_ownTodos : (ownTodos live path findings).length = findings.length := by
  rw [ownTodos, List.length_map, (length_of (todosIn live path) findings).1]

/-- Findings are covered each by its own todo. -/
theorem zipWith_cover_eq (today : Date) :
    findings.zipWith (cover (todosIn live path) today) (of (todosIn live path) findings).assigned =
      findings.zipWith (coverWith today) (ownTodos live path findings) := by
  rw [ownTodos, List.zipWith_map_right]
  rfl

/-- The todos that findings have stand at the positions that are given. -/
theorem filterMap_ownTodos :
    (ownTodos live path findings).filterMap id =
      (given (of (todosIn live path) findings).assigned).filterMap ((todosIn live path)[·]?) := by
  rw [ownTodos, List.filterMap_map, given, List.filterMap_filterMap]
  rfl

/-- No todo is of two findings. -/
theorem nodup_ownTodos (distinct : Distinct live) :
    ((ownTodos live path findings).filterMap id).Nodup := by
  rw [filterMap_ownTodos]
  exact nodup_named (nodup_todosIn distinct path) (nodup_of (todosIn live path) findings)

/-- A finding has no todo because none was given to it, or it has the one that was. -/
theorem ownTodo_cases {finding : Finding} {own : Option Todo}
    (member : (finding, own) ∈ findings.zip (ownTodos live path findings)) :
    (own = none ∧ (finding, none) ∈ findings.zip (of (todosIn live path) findings).assigned) ∨
      ∃ position todo, own = some todo ∧
        (finding, some position) ∈ findings.zip (of (todosIn live path) findings).assigned ∧
        (todosIn live path)[position]? = some todo ∧ todo.kin = finding.kin := by
  rw [ownTodos, List.zip_map_right] at member
  obtain ⟨⟨same, position⟩, inside, equal⟩ := List.mem_map.mp member
  simp only [Prod.map_apply, id_eq, Prod.mk.injEq] at equal
  obtain ⟨rfl, rfl⟩ := equal
  cases position with
  | none => exact .inl ⟨rfl, inside⟩
  | some position =>
    -- A position that is given is that of a todo of the finding's kin.
    obtain ⟨todo, named, akin⟩ := kin_of_assigned inside
    exact .inr ⟨position, todo, named, inside, named, akin⟩

/-- The todos that findings have are of the file. -/
theorem mem_todosIn_of_ownTodos {todo : Todo}
    (member : todo ∈ (ownTodos live path findings).filterMap id) : todo ∈ todosIn live path := by
  rw [filterMap_ownTodos] at member
  obtain ⟨position, _, named⟩ := List.mem_filterMap.mp member
  exact List.mem_of_getElem? named

end OwnTodos

/-- In a settled file nothing is cleaned up, and the findings are reported by its todos alone. -/
theorem reported_of_settled {live : List Todo} {path : String} {findings : List Finding}
    (settled : Settled live path findings) (uniform : Uniform findings) (distinct : Distinct live)
    (cleanup overriding : Bool) (today : Date) :
    cleanupChanges live path findings cleanup overriding = [] ∧
      ReportedByTodos live path findings today
        (reported live path findings cleanup overriding today) := by
  obtain ⟨noneFree, exactlyErrors⟩ := paired_of_settled settled uniform
  -- Without free todos nothing is reported on top of the findings.
  have covering : reported live path findings cleanup overriding today =
      findings.zipWith (coverWith today) (ownTodos live path findings) := by
    simp [reported, noneFree, zipWith_cover_eq]
  refine ⟨by simp [cleanupChanges, noneFree], ownTodos live path findings, length_ownTodos,
    covering, nodup_ownTodos distinct, ?_, ?_⟩
  · intro todo member
    exact List.mem_filter.mp (mem_todosIn_of_ownTodos member)
  · intro finding own member
    rcases ownTodo_cases member with ⟨rfl, left⟩ | ⟨position, todo, rfl, paired, _, akin⟩
    · have noError : finding.severity ≠ .error := by
        intro isError
        simpa using (exactlyErrors finding none left).mpr isError
      rw [if_neg noError]
    · have isError := (exactlyErrors finding (some position) paired).mp rfl
      simp only [Todo.kin, Finding.kin, Prod.mk.injEq] at akin
      rw [if_pos isError]
      exact ⟨todo, rfl, akin.1, sameFile_iff.mpr akin.2.1, akin.2.2⟩

/-- A store that is coherent still answers an update of a settled file with no todo made or dropped. -/
theorem perform_update_of_settled {store : TodoStore} {memory : TodoMemory}
    {changes : List Change} (coherent : store.Coherent memory changes) {path : String}
    {findings : List Finding} (settled : Settled (Todo.live changes) path findings)
    (decay : Decay) (overriding : Bool) (today : Date) :
    perform (store.update path findings decay overriding today) memory =
      (.ok ⟨0, 0⟩, memory.loaded (Todo.live changes)) := by
  rw [perform_update coherent, updates_of_settled settled]
  rfl

/-- A store that is coherent reports the findings of a settled file by its todos, and writes nothing. -/
theorem perform_process_of_settled {store : TodoStore} {memory : TodoMemory}
    {changes : List Change} (coherent : store.Coherent memory changes) {path : String}
    {findings : List Finding} (settled : Settled (Todo.live changes) path findings)
    (uniform : Uniform findings) (cleanup overriding : Bool) (today : Date) :
    ∃ reported, perform (store.process path findings cleanup overriding today) memory =
        (.ok reported, memory.loaded (Todo.live changes)) ∧
      ReportedByTodos (Todo.live changes) path findings today reported := by
  obtain ⟨nothing, byTodos⟩ := reported_of_settled settled uniform (distinct_live changes) cleanup
    overriding today
  refine ⟨_, ?_, byTodos⟩
  rw [perform_process coherent, nothing]
  rfl

/-- All that an update does is to add the todos that it makes and remove the needless. -/
theorem perform_update_eq {store : TodoStore} {memory : TodoMemory} {changes : List Change}
    (coherent : store.Coherent memory changes) (path : String) (findings : List Finding)
    (decay : Decay) (overriding : Bool) (today : Date) :
    let made := store.fresh (Todo.live changes) path findings decay today
    let dropped := if overriding then [] else needless (Todo.live changes) path findings
    perform (store.update path findings decay overriding today) memory =
      mapAnswer (fun _ => ⟨made.length, dropped.length⟩)
        (perform (store.append (made.map .add ++ dropped.map .remove))
          (memory.loaded (Todo.live changes))) := by
  intro made dropped
  have parts : (if overriding then [] else
      (needless (Todo.live changes) path findings).map Change.remove) = dropped.map .remove := by
    cases overriding <;> rfl
  rw [perform_update coherent, updates_eq, parts]
  simp only [List.length_map, made]

/-- Where the log is there, every update succeeds. -/
theorem perform_update_of_isFile {store : TodoStore} {memory : TodoMemory} {changes : List Change}
    (coherent : store.Coherent memory changes)
    (file : memory.files.isFile store.logPath = true) (path : String) (findings : List Finding)
    (decay : Decay) (overriding : Bool) (today : Date) :
    let made := store.fresh (Todo.live changes) path findings decay today
    let dropped := if overriding then [] else needless (Todo.live changes) path findings
    ∃ left, perform (store.update path findings decay overriding today) memory =
      (.ok ⟨made.length, dropped.length⟩, left) := by
  intro made dropped
  obtain ⟨left, added, _⟩ := append_of_isFile (coherent_loaded coherent) file
    (made.map .add ++ dropped.map .remove)
  exact ⟨left, by rw [perform_update_eq coherent, added, mapAnswer_ok]⟩

/-- An update that succeeds has made its new todos and dropped the needless, unless it overrides. -/
theorem recorded_of_perform_update {store : TodoStore} {memory updated : TodoMemory}
    {changes : List Change} (coherent : store.Coherent memory changes) {path : String}
    {findings : List Finding} {decay : Decay} {overriding : Bool} {today : Date}
    {counts : TodoCounts}
    (update : perform (store.update path findings decay overriding today) memory =
      (.ok counts, updated)) :
    let made := store.fresh (Todo.live changes) path findings decay today
    let dropped := if overriding then [] else needless (Todo.live changes) path findings
    counts = ⟨made.length, dropped.length⟩ ∧ ∃ recorded, store.Coherent updated recorded ∧
      Todo.live recorded =
        applyAll (Todo.live changes) (made.map .add ++ dropped.map .remove) := by
  intro made dropped
  rw [perform_update_eq coherent] at update
  -- Writing the entries is all that may fail, so an answer means that they are written.
  rcases perform_append (coherent_loaded coherent) (made.map .add ++ dropped.map .remove) with
    ⟨cause, failed⟩ | ⟨left, added, kept⟩
  · rw [failed] at update
    simp at update
  · rw [added, mapAnswer_ok] at update
    obtain ⟨answer, rfl⟩ := Prod.mk.inj update
    exact ⟨(Except.ok.inj answer).symm, _, kept, live_append _ _⟩

/-- An update that succeeds leaves a coherent store in which its file is settled. -/
theorem settled_of_perform_update {store : TodoStore} {memory updated : TodoMemory}
    {changes : List Change} (coherent : store.Coherent memory changes) {path : String}
    {findings : List Finding} (separate : Separate path findings) {decay : Decay} {today : Date}
    {counts : TodoCounts}
    (update : perform (store.update path findings decay false today) memory =
      (.ok counts, updated)) :
    ∃ recorded, store.Coherent updated recorded ∧
      Todo.live recorded = applyAll (Todo.live changes)
        ((store.fresh (Todo.live changes) path findings decay today).map .add ++
          (needless (Todo.live changes) path findings).map .remove) ∧
      Settled (Todo.live recorded) path findings := by
  obtain ⟨_, recorded, kept, live⟩ := recorded_of_perform_update coherent update
  refine ⟨recorded, kept, live, ?_⟩
  rw [live]
  exact settled_update separate (distinct_live changes) decay today

/--
After an update that succeeds and overrides no rules, on the same store or on one opened anew and
on any later day, another update with the same findings makes and drops nothing, and holding them
against the todos reports each by a todo of its own; neither touches the disk.
-/
theorem update_settles {store : TodoStore} {memory updated : TodoMemory} {changes : List Change}
    (coherent : store.Coherent memory changes) {path : String} {findings : List Finding}
    (separate : Separate path findings) (uniform : Uniform findings) {decay : Decay}
    {first : Date} {counts : TodoCounts}
    (update : perform (store.update path findings decay false first) memory =
      (.ok counts, updated)) :
    ∀ later laterMemory, (later = store ∧ laterMemory = updated) ∨
        (later.directory = store.directory ∧ laterMemory = updated.fresh) →
      (∀ again overriding second, ∃ left,
        perform (later.update path findings again overriding second) laterMemory =
            (.ok ⟨0, 0⟩, left) ∧
          left.files = updated.files) ∧
      ∃ live, (perform later.liveTodos laterMemory).1 = .ok live ∧
        ∀ cleanup overriding second, ∃ reported left,
          perform (later.process path findings cleanup overriding second) laterMemory =
              (.ok reported, left) ∧
            left.files = updated.files ∧
            ReportedByTodos live path findings second reported := by
  -- What the first update has recorded covers all findings, so that any later look finds nothing to
  -- do.
  obtain ⟨recorded, kept, _, settled⟩ := settled_of_perform_update coherent separate update
  intro later laterMemory same
  obtain ⟨coherentNow, files⟩ := coherent_later kept same
  refine ⟨?_, Todo.live recorded, by rw [perform_liveTodos coherentNow], ?_⟩
  · intro again overriding second
    exact ⟨_, perform_update_of_settled coherentNow settled again overriding second, files⟩
  · intro cleanup overriding second
    obtain ⟨reported, outcome, byTodos⟩ :=
      perform_process_of_settled coherentNow settled uniform cleanup overriding second
    exact ⟨reported, _, outcome, files, byTodos⟩

/-- A finding on a line of a template. -/
def sampleFinding (rule : String) (severity : Severity) (line : UInt64) : Finding where
  rule := rule
  severity := severity
  filePath := "./a.hbs"
  line := line
  column := 0
  source := "\t"
  message := "Unexpected tab."
  isFixable := false

/-- Two errors on other lines than the one todo of their file, and a warning beside them. -/
def sampleFindings : List Finding :=
  [sampleFinding "no-tabs" .error 2, sampleFinding "no-trailing" .warning 2,
    sampleFinding "no-tabs" .error 3]

/-- Where a todo has moved and another is new, one update is enough for every later day. -/
theorem update_settles_sample :
    sample.Coherent sampleMemory [.add (sampleTodo 1)] ∧ Separate "a.hbs" sampleFindings ∧
      Uniform sampleFindings ∧
      ∃ updated,
        perform (sample.update "a.hbs" sampleFindings .never false ⟨738001, by decide⟩)
            sampleMemory = (.ok ⟨1, 0⟩, updated) ∧
          ∀ again overriding second, ∃ left,
            perform (sample.update "a.hbs" sampleFindings again overriding second) updated.fresh =
                (.ok ⟨0, 0⟩, left) ∧
              left.files = updated.files := by
  have separate : Separate "a.hbs" sampleFindings := ⟨by decide +kernel, by decide +kernel⟩
  have uniform : Uniform sampleFindings := by unfold Uniform; decide +kernel
  -- Only the counts are computed; the rest follows from the theorem.
  have made : (perform (sample.update "a.hbs" sampleFindings .never false ⟨738001, by decide⟩)
      sampleMemory).1.toOption = some ⟨1, 0⟩ := by decide +kernel
  generalize outcome : perform
    (sample.update "a.hbs" sampleFindings .never false ⟨738001, by decide⟩) sampleMemory =
      result at made
  obtain ⟨answer, updated⟩ := result
  obtain rfl := ok_of_toOption made
  have settles := update_settles coherent_sample separate uniform outcome sample updated.fresh
    (.inr ⟨rfl, rfl⟩)
  exact ⟨coherent_sample, separate, uniform, updated, rfl, settles.1⟩

end TodoStore

end TemplateLint
