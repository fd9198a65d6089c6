import TemplateLint.Proofs.Effect
import TemplateLint.Proofs.Regex.Matches
import TemplateLint.Proofs.Rules.Engine
import TemplateLint.Proofs.Text.ByteOrder

/-!
Where findings are: they come in the order of line, rule and column, and what a finding holds of the
text stands in its line at its column.
-/

namespace TemplateLint

namespace Finding

/-- A finding is of an earlier line, or else of an earlier rule, or else at an earlier column. -/
def Before (first second : Finding) : Prop :=
  first.line < second.line ∨ first.line = second.line ∧
    (Text.bytes first.rule < Text.bytes second.rule ∨ first.rule = second.rule ∧
      first.column < second.column)

/-- Findings of which one is before the other are not at one place. -/
theorem Before.place_ne {first second : Finding} (before : first.Before second) :
    first.place ≠ second.place := by
  intro same
  obtain ⟨rule, line, column⟩ : first.rule = second.rule ∧ first.line = second.line ∧
      first.column = second.column := by simpa [place] using same
  -- The one before is less in some part of the place, and nothing is less than itself.
  rcases before with earlier | ⟨_, other | ⟨_, left⟩⟩
  · rw [line] at earlier
    exact UInt64.lt_irrefl _ earlier
  · rw [rule] at other
    exact List.lt_irrefl _ other
  · rw [column] at left
    exact UInt64.lt_irrefl _ left

/-- A finding names a line of a text, and its own text stands there at its column. -/
def StandsIn (finding : Finding) (text : List Char) : Prop :=
  1 ≤ finding.line.toNat ∧ finding.source ≠ "" ∧
    ∃ line, (Text.lines text)[finding.line.toNat - 1]? = some line ∧
      finding.source.toList <+: line.drop finding.column.toNat

/-- A finding says what a rule says. -/
def Tells (finding : Finding) (rule : Rule) : Prop :=
  finding.rule = rule.id ∧ finding.severity = rule.severity ∧ finding.message = rule.message ∧
    finding.isFixable = rule.fix.isSome

end Finding

/-- Small numbers are in the order of the words that they are. -/
theorem UInt64.ofNat_lt_ofNat_of_lt {first second : Nat} (less : first < second)
    (small : second < UInt64.size) : UInt64.ofNat first < UInt64.ofNat second := by
  rw [UInt64.lt_iff_toNat_lt, UInt64.toNat_ofNat_of_lt' (by omega), UInt64.toNat_ofNat_of_lt' small]
  exact less

namespace Rule

/-- A finding of a rule in a line is made by a match that is not empty and lies in the line. -/
theorem exists_of_mem_lineFindings {rule : Rule} {path : String} {number : Nat} {line : List Char}
    {finding : Finding} (member : finding ∈ rule.lineFindings path number line) :
    ∃ found ∈ rule.regex.matchesOf line, found.start < found.stop ∧ found.stop ≤ line.length ∧
      finding = rule.finding path number line found := by
  obtain ⟨found, kept, rfl⟩ := List.mem_map.mp member
  obtain ⟨known, some⟩ := List.mem_filter.mp kept
  exact ⟨found, known, by simpa using some, (Regex.bounds_of_mem_matchesOf known).2, rfl⟩

/-- The findings of a rule in a line that is short enough come from left to right. -/
theorem pairwise_before_lineFindings (rule : Rule) (path : String) (number : Nat)
    {line : List Char} (short : line.length < UInt64.size) :
    (rule.lineFindings path number line).Pairwise Finding.Before := by
  rw [lineFindings, List.pairwise_map]
  refine ((rule.regex.pairwise_matchesOf line).filter _).imp_of_mem ?_
  intro first second _ secondMember before
  have inside := Regex.start_le_length (List.mem_filter.mp secondMember).1
  exact .inr ⟨rfl, .inr ⟨rfl, UInt64.ofNat_lt_ofNat_of_lt before (by omega)⟩⟩

/-- What a match holds of a line stands there at its start, and it is some text. -/
theorem stands_finding (rule : Rule) (path : String) (number : Nat) {line : List Char}
    (short : line.length < UInt64.size) {found : Regex.Match} (some : found.start < found.stop)
    (inside : found.stop ≤ line.length) :
    (rule.finding path number line found).source ≠ "" ∧
      (rule.finding path number line found).source.toList <+:
        line.drop (rule.finding path number line found).column.toNat := by
  -- A column is a machine word, which the length of the line fits into.
  have column : (rule.finding path number line found).column.toNat = found.start :=
    UInt64.toNat_ofNat_of_lt' (by omega)
  rw [column]
  constructor
  · intro empty
    have nothing := congrArg (·.toList.length) empty
    simp only [finding, String.toList_ofList, Regex.Match.text, List.length_take, List.length_drop,
      String.toList_empty, List.length_nil] at nothing
    omega
  · simp only [finding, String.toList_ofList, Regex.Match.text]
    exact List.take_prefix _ _

end Rule

namespace RuleSet

/-- The active rules stand in the order of their ids when all rules do. -/
theorem ordered_active {set : RuleSet} (ordered : (set.rules.map Rule.id).Pairwise (· < ·))
    (source : String) : ((set.active source).map Rule.id).Pairwise (· < ·) :=
  ordered.sublist (List.filter_sublist.map Rule.id)

/-- The findings in lines that are few and short enough come in order. -/
theorem pairwise_before_findingsFrom {rules : List Rule}
    (ordered : (rules.map Rule.id).Pairwise (· < ·)) (path : String) {number : Nat}
    {lines : List (List Char)} (few : number + lines.length ≤ UInt64.size)
    (short : ∀ line ∈ lines, line.length < UInt64.size) :
    (findingsFrom rules path number lines).Pairwise Finding.Before := by
  -- The induction is on the lines; within a line the order is that of the rules.
  induction lines generalizing number with
  | nil => exact .nil
  | cons line later ih =>
    simp only [List.length_cons] at few
    simp only [findingsFrom]
    refine List.pairwise_append.mpr ⟨List.pairwise_flatMap.mpr ⟨?_, ?_⟩, ?_, ?_⟩
    · intro rule _
      exact rule.pairwise_before_lineFindings path number (short line List.mem_cons_self)
    · rw [List.pairwise_map] at ordered
      refine ordered.imp ?_
      intro rule other before first firstFound second secondFound
      obtain ⟨firstRule, _, _, firstLine⟩ := Rule.of_mem_lineFindings firstFound
      obtain ⟨secondRule, _, _, secondLine⟩ := Rule.of_mem_lineFindings secondFound
      refine .inr ⟨firstLine.trans secondLine.symm, .inl ?_⟩
      rw [firstRule, secondRule]
      exact Text.bytes_lt_bytes before
    · exact ih (by omega) fun other member => short other (List.mem_cons_of_mem _ member)
    · intro first firstFound second secondFound
      obtain ⟨rule, _, found⟩ := List.mem_flatMap.mp firstFound
      obtain ⟨other, _, _, _, own, atLeast, below, there⟩ := exists_of_mem_findingsFrom secondFound
      refine .inl ?_
      rw [(Rule.of_mem_lineFindings found).2.2.2, (Rule.of_mem_lineFindings there).2.2.2]
      exact UInt64.ofNat_lt_ofNat_of_lt (by omega) (by omega)

/-- A finding is one of a rule in the line with its number. -/
theorem exists_line_of_mem_findingsFrom {rules : List Rule} {path : String} {number : Nat}
    {lines : List (List Char)} {finding : Finding}
    (member : finding ∈ findingsFrom rules path number lines) :
    ∃ rule ∈ rules, ∃ place line, lines[place]? = some line ∧
      finding ∈ rule.lineFindings path (number + place) line := by
  induction lines generalizing number with
  | nil => simp [findingsFrom] at member
  | cons line later ih =>
    simp only [findingsFrom] at member
    -- Each line that is passed is one more in the place and one more in the number.
    rcases List.mem_append.mp member with here | there
    · obtain ⟨rule, known, found⟩ := List.mem_flatMap.mp here
      exact ⟨rule, known, 0, line, rfl, found⟩
    · obtain ⟨rule, known, place, other, stands, found⟩ := ih there
      exact ⟨rule, known, place + 1, other, stands, by rwa [Nat.add_comm place, ← Nat.add_assoc]⟩

/--
The findings in a template come in strict order of line, rule and column, so no two are at one
place. Each is of a line of the template, counted from one, in which its text stands behind as many
characters as its column tells; and each says what an active rule says. A template that fits in
memory is short enough for its lines and columns to be counted in machine words.
-/
theorem verify_in_order {rules : Dictionary RuleConfig} {inlineConfig : Bool} {set : RuleSet}
    (ready : ofConfig rules inlineConfig = .ok set) (template : Template)
    (short : template.source.length < UInt64.size) :
    (set.verify template).Pairwise Finding.Before ∧
      ((set.verify template).map Finding.place).Nodup ∧
      ∀ finding ∈ set.verify template,
        finding.StandsIn template.source.toList ∧
          ∃ rule ∈ set.active template.source, finding.Tells rule := by
  obtain ⟨few, lengths⟩ := Text.lines_le_length template.source.toList
  rw [String.length_toList] at few lengths
  have shortLines : ∀ line ∈ Text.lines template.source.toList, line.length < UInt64.size :=
    fun line member => Nat.lt_of_le_of_lt (lengths line member) short
  have inOrder : (set.verify template).Pairwise Finding.Before :=
    pairwise_before_findingsFrom (ordered_active (ordered_of_ofConfig ready) _) _ (by omega)
      shortLines
  refine ⟨inOrder, ?_, ?_⟩
  · rw [List.Nodup, List.pairwise_map]
    exact inOrder.imp Finding.Before.place_ne
  · intro finding member
    obtain ⟨rule, known, place, line, stands, here⟩ := exists_line_of_mem_findingsFrom member
    obtain ⟨found, _, some, inside, rfl⟩ := Rule.exists_of_mem_lineFindings here
    have below := (List.getElem?_eq_some_iff.mp stands).1
    -- The number of the line is its place and one.
    have number : (rule.finding template.filePath (1 + place) line found).line.toNat = 1 + place :=
      UInt64.toNat_ofNat_of_lt' (by omega)
    have isShort := shortLines line (List.mem_of_getElem? stands)
    obtain ⟨nonempty, opens⟩ :=
      rule.stands_finding template.filePath (1 + place) isShort some inside
    refine ⟨⟨by omega, nonempty, line, ?_, opens⟩, rule, known, rfl, rfl, rfl, rfl⟩
    rwa [number, Nat.add_sub_cancel_left]

/-- The settings of a rule that has a pattern and maybe a replacement. -/
def sampleRule (pattern : String) (fix : Option String) : RuleConfig :=
  ⟨some pattern, none, none, fix⟩

/-- Two rules, one for runs of a letter and one for a letter that takes two bytes. -/
def sampleLetters : Dictionary RuleConfig :=
  ⟨[("no-b", sampleRule "b+" none), ("no-e", sampleRule "é" (some "e"))], by decide⟩

/-- In two lines, one of which ends with a carriage return too, columns count characters. -/
theorem verify_in_order_sample :
    ∃ set, ofConfig sampleLetters true = .ok set ∧
      ("ééb\r\nbbéb").length < UInt64.size ∧
      ((set.verify ⟨"ééb\r\nbbéb", "a.hbs"⟩).map Finding.place).Nodup ∧
      (set.verify ⟨"ééb\r\nbbéb", "a.hbs"⟩).map Finding.place =
        [("no-b", 1, 2), ("no-e", 1, 0), ("no-e", 1, 1),
          ("no-b", 2, 0), ("no-b", 2, 3), ("no-e", 2, 2)] := by
  have found : (ofConfig sampleLetters true).toOption.map
      (fun set => (set.verify ⟨"ééb\r\nbbéb", "a.hbs"⟩).map Finding.place) =
        some [("no-b", 1, 2), ("no-e", 1, 0), ("no-e", 1, 1),
          ("no-b", 2, 0), ("no-b", 2, 3), ("no-e", 2, 2)] := by
    decide +kernel
  have short : ("ééb\r\nbbéb").length < UInt64.size := by decide
  obtain ⟨set, ready, places⟩ := Effect.exists_of_toOption_map found
  obtain ⟨_, apart, _⟩ := verify_in_order ready ⟨"ééb\r\nbbéb", "a.hbs"⟩ short
  exact ⟨set, ready, short, apart, places⟩

end RuleSet

end TemplateLint
