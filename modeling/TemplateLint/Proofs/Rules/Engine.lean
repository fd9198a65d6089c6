import Mathlib.Data.List.Nodup
import TemplateLint.Proofs.Regex.Search
import TemplateLint.Proofs.Text.Lines
import TemplateLint.Proofs.Todo.Reconcile
import TemplateLint.Rules.Engine

/-!
The findings of rules in a template: no two of one rule are at one place, all of one rule are of
one severity, and another spelling of the template's path changes nothing but the path.
-/

namespace TemplateLint

namespace Rule

/-- A rule that is ready for use has the id that it is configured under, and a pattern that reads. -/
theorem spec_of_ofConfig? {id : String} {config : RuleConfig} {rule : Rule}
    (made : ofConfig? id config = .ok (some rule)) :
    rule.id = id ∧ ∃ pattern, Regex.ofString? pattern = some rule.regex := by
  simp only [ofConfig?, bind, Except.bind, pure, Except.pure] at made
  split at made
  · simp at made
  · split at made
    · simp at made
    · split at made
      · simp [throw, throwThe, MonadExceptOf.throw] at made
      · rename_i pattern _
        split at made
        · simp [throw, throwThe, MonadExceptOf.throw] at made
        · rename_i regex read
          rw [← Option.some.inj (Except.ok.inj made)]
          exact ⟨rfl, pattern, read⟩

/-- The rules of entries are those of the later ones, behind the first rule unless it is off. -/
theorem ofEntries_cons_eq_ok {id : String} {config : RuleConfig}
    {later : List (String × RuleConfig)} {rules : List Rule} :
    ofEntries ((id, config) :: later) = .ok rules ↔
      (ofConfig? id config = .ok none ∧ ofEntries later = .ok rules) ∨
        ∃ rule others, ofConfig? id config = .ok (some rule) ∧ ofEntries later = .ok others ∧
          rule :: others = rules := by
  rw [ofEntries]
  cases made : ofConfig? id config with
  | error fault => simp
  | ok own =>
    cases own with
    | none => simp
    | some rule =>
      -- A fault among the later entries is a fault of all of them.
      cases rest : ofEntries later with
      | error error => simp [Except.map]
      | ok others => simp [Except.map]

/-- Rules that are ready for use stand in the order of their configurations. -/
theorem ids_of_ofEntries {entries : List (String × RuleConfig)} {rules : List Rule}
    (ready : ofEntries entries = .ok rules) :
    (rules.map Rule.id).Sublist (entries.map Prod.fst) := by
  induction entries generalizing rules with
  | nil =>
    obtain rfl : [] = rules := by simpa [ofEntries] using ready
    exact .slnil
  | cons entry later ih =>
    rcases ofEntries_cons_eq_ok.mp ready with ⟨_, rest⟩ | ⟨rule, others, made, rest, rfl⟩
    · -- A rule that is off is left out, and any other has the id of its entry.
      exact (ih rest).cons entry.1
    · rw [List.map_cons, List.map_cons, (spec_of_ofConfig? made).1]
      exact (ih rest).cons_cons entry.1

/-- The regular expressions of rules that are ready for use have been read from patterns. -/
theorem exists_pattern_of_ofEntries {entries : List (String × RuleConfig)} {rules : List Rule}
    (ready : ofEntries entries = .ok rules) {rule : Rule} (member : rule ∈ rules) :
    ∃ pattern, Regex.ofString? pattern = some rule.regex := by
  induction entries generalizing rules with
  | nil =>
    obtain rfl : [] = rules := by simpa [ofEntries] using ready
    simp at member
  | cons entry later ih =>
    rcases ofEntries_cons_eq_ok.mp ready with ⟨_, rest⟩ | ⟨first, others, made, rest, rfl⟩
    · exact ih rest member
    · rcases List.mem_cons.mp member with rfl | inside
      · exact (spec_of_ofConfig? made).2
      · exact ih rest inside

/-- A finding of a rule in a line tells the rule, its severity, the line and a place in it. -/
theorem of_mem_lineFindings {rule : Rule} {path : String} {number : Nat} {line : List Char}
    {finding : Finding} (member : finding ∈ rule.lineFindings path number line) :
    finding.rule = rule.id ∧ finding.severity = rule.severity ∧ finding.filePath = path ∧
      finding.line = UInt64.ofNat number := by
  obtain ⟨found, _, rfl⟩ := List.mem_map.mp member
  exact ⟨rfl, rfl, rfl, rfl⟩

end Rule

/-- Small numbers differ as words when they differ. -/
theorem ofNat_ne_ofNat {first second : Nat} (differ : first ≠ second)
    (firstSmall : first < UInt64.size) (secondSmall : second < UInt64.size) :
    UInt64.ofNat first ≠ UInt64.ofNat second := by
  intro same
  have numbers := congrArg UInt64.toNat same
  rw [UInt64.toNat_ofNat_of_lt' firstSmall, UInt64.toNat_ofNat_of_lt' secondSmall] at numbers
  exact differ numbers

namespace Finding

/-- The rule of a finding, and where it is. -/
def place (finding : Finding) : String × UInt64 × UInt64 :=
  (finding.rule, finding.line, finding.column)

end Finding

namespace RuleSet

/-- The rules of a project are made from its settings. -/
theorem rules_of_ofConfig {rules : Dictionary RuleConfig} {inlineConfig : Bool} {set : RuleSet}
    (ready : ofConfig rules inlineConfig = .ok set) :
    Rule.ofEntries rules.entries = .ok set.rules ∧ set.inlineConfig = inlineConfig := by
  cases made : Rule.ofEntries rules.entries with
  | error error => simp [ofConfig, made, Except.map] at ready
  | ok own =>
    obtain rfl : RuleSet.mk own inlineConfig = set := by
      simpa [ofConfig, made, Except.map] using ready
    exact ⟨rfl, rfl⟩

/-- The rules of a project stand in the order of their ids. -/
theorem ordered_of_ofConfig {rules : Dictionary RuleConfig} {inlineConfig : Bool} {set : RuleSet}
    (ready : ofConfig rules inlineConfig = .ok set) :
    (set.rules.map Rule.id).Pairwise (· < ·) := by
  -- The entries of a dictionary are in strict order, and rules that are off are left out.
  have sorted : (rules.entries.map Prod.fst).Pairwise (· < ·) := by
    rw [List.pairwise_map]
    exact rules.sorted
  exact sorted.sublist (Rule.ids_of_ofEntries (rules_of_ofConfig ready).1)

/-- The rules of a project have ids of their own. -/
theorem distinct_of_ofConfig {rules : Dictionary RuleConfig} {inlineConfig : Bool}
    {set : RuleSet} (ready : ofConfig rules inlineConfig = .ok set) :
    (set.rules.map Rule.id).Nodup := by
  refine (ordered_of_ofConfig ready).imp ?_
  rintro first _ before rfl
  exact String.lt_irrefl first before

/-- The active rules have ids of their own when all rules have. -/
theorem distinct_active {set : RuleSet} (distinct : (set.rules.map Rule.id).Nodup)
    (source : String) : ((set.active source).map Rule.id).Nodup :=
  distinct.sublist (List.filter_sublist.map Rule.id)

/-- A finding is one of a rule in a line, with a number from the first on. -/
theorem exists_of_mem_findingsFrom {rules : List Rule} {path : String} {number : Nat}
    {lines : List (List Char)} {finding : Finding}
    (member : finding ∈ findingsFrom rules path number lines) :
    ∃ rule ∈ rules, ∃ line ∈ lines, ∃ own, number ≤ own ∧ own < number + lines.length ∧
      finding ∈ rule.lineFindings path own line := by
  -- The induction moves the number of the first line on by one.
  induction lines generalizing number with
  | nil => simp [findingsFrom] at member
  | cons line later ih =>
    simp only [findingsFrom] at member
    rcases List.mem_append.mp member with here | there
    · obtain ⟨rule, known, found⟩ := List.mem_flatMap.mp here
      exact ⟨rule, known, line, List.mem_cons_self, number, Nat.le_refl _, by simp, found⟩
    · obtain ⟨rule, known, other, inside, own, atLeast, below, found⟩ := ih there
      refine ⟨rule, known, other, List.mem_cons_of_mem _ inside, own, ?_, ?_, found⟩
      · omega
      · simp only [List.length_cons]
        omega

/-- No two findings of a rule in a line that is short enough are at one place. -/
theorem pairwise_lineFindings (rule : Rule) (path : String) (number : Nat) {line : List Char}
    (short : line.length < UInt64.size) :
    (rule.lineFindings path number line).Pairwise fun first second =>
      first.place ≠ second.place := by
  -- Columns are machine words, and those of a short line are told apart there.
  have inside : ∀ found ∈ (rule.regex.matchesOf line).filter fun found => found.start < found.stop,
      found.start < UInt64.size := by
    intro found member
    have bound := Regex.start_le_length (List.mem_filter.mp member).1
    omega
  have ordered := (rule.regex.pairwise_matchesOf line).filter fun found =>
    decide (found.start < found.stop)
  simp only [Rule.lineFindings, List.pairwise_map]
  refine ordered.imp_of_mem ?_
  intro first second firstMember secondMember before same
  simp only [Finding.place, Rule.finding, Prod.mk.injEq] at same
  exact ofNat_ne_ofNat (Nat.ne_of_lt before) (inside _ firstMember) (inside _ secondMember)
    same.2.2

/-- No two findings in lines that are few and short enough are of one rule at one place. -/
theorem pairwise_findingsFrom {rules : List Rule} (distinct : (rules.map Rule.id).Nodup)
    (path : String) {number : Nat} {lines : List (List Char)}
    (few : number + lines.length ≤ UInt64.size)
    (short : ∀ line ∈ lines, line.length < UInt64.size) :
    (findingsFrom rules path number lines).Pairwise fun first second =>
      first.place ≠ second.place := by
  induction lines generalizing number with
  | nil => exact .nil
  | cons line later ih =>
    simp only [List.length_cons] at few
    simp only [findingsFrom]
    refine List.pairwise_append.mpr ⟨?_, ?_, ?_⟩
    · -- In one line the findings of one rule are apart, and different rules have different ids.
      refine List.pairwise_flatMap.mpr ⟨?_, ?_⟩
      · intro rule _
        exact pairwise_lineFindings rule path number (short line List.mem_cons_self)
      · rw [List.Nodup, List.pairwise_map] at distinct
        refine distinct.imp ?_
        intro rule other differ first firstFound second secondFound same
        have firstRule := (Rule.of_mem_lineFindings firstFound).1
        have secondRule := (Rule.of_mem_lineFindings secondFound).1
        simp only [Finding.place, Prod.mk.injEq, firstRule, secondRule] at same
        exact differ same.1
    · exact ih (by omega) fun other member => short other (List.mem_cons_of_mem _ member)
    · -- A later line has a higher number.
      intro first firstFound second secondFound same
      obtain ⟨rule, _, found⟩ := List.mem_flatMap.mp firstFound
      obtain ⟨other, _, _, _, own, atLeast, below, there⟩ := exists_of_mem_findingsFrom secondFound
      have firstLine := (Rule.of_mem_lineFindings found).2.2.2
      have secondLine := (Rule.of_mem_lineFindings there).2.2.2
      simp only [Finding.place, Prod.mk.injEq, firstLine, secondLine] at same
      exact ofNat_ne_ofNat (by omega) (by omega) (by omega) same.2.1

/-- The errors in a template that is short enough are its own, each at a place of its own. -/
theorem separate_verify {set : RuleSet} (distinct : (set.rules.map Rule.id).Nodup)
    (template : Template) (short : template.source.length < UInt64.size) :
    TodoStore.Separate template.filePath (set.verify template) := by
  obtain ⟨few, lengths⟩ := Text.lines_le_length template.source.toList
  rw [String.length_toList] at few lengths
  -- A short template has few lines, each of them short.
  have apart : (set.verify template).Pairwise fun first second => first.place ≠ second.place := by
    refine pairwise_findingsFrom (distinct_active distinct template.source) template.filePath ?_ ?_
    · omega
    · intro line member
      have bound := lengths line member
      omega
  refine ⟨?_, ?_⟩
  · intro finding member _
    obtain ⟨_, _, _, _, _, _, _, found⟩ := exists_of_mem_findingsFrom member
    rw [(Rule.of_mem_lineFindings found).2.2.1]
  · rw [List.Nodup, List.pairwise_map]
    refine (apart.filter fun finding => decide (finding.severity = .error)).imp ?_
    intro first second differ same
    simp only [Prod.mk.injEq] at same
    exact differ (by simp only [Finding.place, same.1, same.2.1, same.2.2.1])

/-- All findings of one rule in a template are of the rule's severity. -/
theorem uniform_verify {set : RuleSet} (distinct : (set.rules.map Rule.id).Nodup)
    (template : Template) : TodoStore.Uniform (set.verify template) := by
  intro one oneMember other otherMember same
  obtain ⟨first, firstKnown, _, _, _, _, _, firstFound⟩ := exists_of_mem_findingsFrom oneMember
  obtain ⟨second, secondKnown, _, _, _, _, _, secondFound⟩ :=
    exists_of_mem_findingsFrom otherMember
  have firstTells := Rule.of_mem_lineFindings firstFound
  have secondTells := Rule.of_mem_lineFindings secondFound
  rw [firstTells.1, secondTells.1] at same
  rw [firstTells.2.1, secondTells.2.1]
  -- Rules of one id are one rule.
  have own := distinct_active distinct template.source
  exact congrArg Rule.severity (List.inj_on_of_nodup_map own firstKnown secondKnown same)

/-- Of the path of a file its findings only tell the name. -/
theorem findingsFrom_rename (rules : List Rule) (path other : String) (number : Nat)
    (lines : List (List Char)) :
    findingsFrom rules other number lines =
      (findingsFrom rules path number lines).map
        fun finding => { finding with filePath := other } := by
  induction lines generalizing number with
  | nil => rfl
  | cons line later ih =>
    simp only [findingsFrom, List.map_append, List.map_flatMap, Rule.lineFindings, List.map_map,
      ih]
    rfl

/-- The findings in a template under another path are its findings, under that path. -/
theorem verify_rename (set : RuleSet) (source path other : String) :
    set.verify ⟨source, other⟩ =
      (set.verify ⟨source, path⟩).map fun finding => { finding with filePath := other } :=
  findingsFrom_rename _ path other _ _

end RuleSet

namespace TodoStore

/-- Under any spelling of its path a template is settled if it is under one. -/
theorem settled_of_sameFile {live : List Todo} {set : RuleSet} {source path other : String}
    (same : storageKey path = storageKey other)
    (settled : Settled live path (set.verify ⟨source, path⟩)) :
    Settled live other (set.verify ⟨source, other⟩) := by
  have todos : todosIn live other = todosIn live path := by
    refine List.filter_congr ?_
    intro todo _
    simp only [sameFile, same]
  have keyed : ∀ finding ∈ set.verify ⟨source, path⟩, finding.filePath = path := by
    intro finding member
    obtain ⟨_, _, _, _, _, _, _, found⟩ := RuleSet.exists_of_mem_findingsFrom member
    exact (Rule.of_mem_lineFindings found).2.2.1
  intro kin
  -- Kinds name the stored path, which both spellings share.
  rw [todos, settled kin, RuleSet.verify_rename set source path other]
  simp only [Pairing.findingsOfKin, errorsOf, List.countP_filter, List.countP_map]
  refine List.countP_congr ?_
  intro finding member
  have akin : Finding.kin { finding with filePath := other } = finding.kin := by
    simp only [Finding.kin, keyed finding member, same]
  simp [akin]

end TodoStore

end TemplateLint
