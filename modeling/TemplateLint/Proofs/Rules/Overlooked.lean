import TemplateLint.Proofs.Regex.Matches
import TemplateLint.Proofs.Regex.Within
import TemplateLint.Proofs.Rules.Placement
import TemplateLint.Proofs.Text.Around

/-!
Replacements are made in a whole text, findings are told line by line. A template without findings
to repair is left as it is, unless a rule has a match in the whole text that the lines do not show.
-/

namespace TemplateLint

namespace Regex

variable {regex : Regex} {text : List Char}

/--
A match in a whole text that its lines need not show: an empty one, one that takes in a line end, or
one in a line in which there is an empty match.
-/
def Overlooked (regex : Regex) (text : List Char) (found : Match) : Prop :=
  found.start = found.stop ∨ Text.TakesLineEnd (found.text text) (text.drop found.stop) ∨
    ∃ start line, Text.LineAt text start line ∧ start ≤ found.start ∧
      found.stop ≤ start + line.length ∧ ∃ other ∈ regex.matchesOf line, other.start = other.stop

/-- A match in a whole text that is not empty and takes in no line end is in a line with matches. -/
theorem exists_line_of_mem_matchesOf (spares : regex.program.SparesLineEnds) {found : Match}
    (member : found ∈ regex.matchesOf text) (nonempty : found.start < found.stop)
    (within : ¬Text.TakesLineEnd (found.text text) (text.drop found.stop)) :
    ∃ start line, Text.LineAt text start line ∧ start ≤ found.start ∧
      found.stop ≤ start + line.length ∧ regex.matchesOf line ≠ [] := by
  obtain ⟨before, rest, rfl, starts, matched⟩ := exists_of_mem_matchesOf member
  obtain ⟨after, reads, sizes⟩ := Program.reads_of_matchAt? matched
  obtain ⟨own, rfl⟩ := reads.suffix
  rw [List.length_append] at sizes
  -- The match is what stands between the text before it and the text after it.
  have isOwn : found.text (before ++ (own ++ after)) = own := by
    rw [Match.text, starts, List.drop_left, List.take_left' (by omega)]
  have isAfter : (before ++ (own ++ after)).drop found.stop = after := by
    rw [← List.append_assoc, List.drop_left' (by rw [List.length_append]; omega)]
  have some : own ≠ [] := by
    rintro rfl
    simp only [List.length_nil] at sizes
    omega
  rw [isOwn, isAfter] at within
  obtain ⟨opening, closing, start, stands, offset, seenBefore, seenAfter⟩ :=
    Text.exists_line_around before some within
  refine ⟨start, _, stands, by omega, ?_, ?_⟩
  · simp only [List.length_append]
    omega
  · -- What is read in the whole text is read in the line too.
    intro none
    refine not_reads_of_matchesOf_eq_nil none rfl (reads.seenAs spares rfl ?_ ?_)
    · exact seenBefore.imp id fun starts => ⟨by rw [starts.1]; rfl, starts.2.imp id .inl⟩
    · exact seenAfter.imp id fun ends => ⟨by rw [ends.1]; rfl, .inr ends.2⟩

/-- Where no line has a match that is not empty all matches in the whole text are overlooked. -/
theorem overlooked_of_lines (spares : regex.program.SparesLineEnds)
    (lines : ∀ line ∈ Text.lines text, ∀ found ∈ regex.matchesOf line, ¬found.start < found.stop)
    {found : Match} (member : found ∈ regex.matchesOf text) : regex.Overlooked text found := by
  have order := (bounds_of_mem_matchesOf member).1
  -- A match of the whole text is empty, takes a line end, or stands in a line that has a match as
  -- well.
  by_cases nonempty : found.start < found.stop
  · by_cases within : Text.TakesLineEnd (found.text text) (text.drop found.stop)
    · exact .inr (.inl within)
    · obtain ⟨start, line, stands, begins, ends, some⟩ :=
        exists_line_of_mem_matchesOf spares member nonempty within
      obtain ⟨other, inside⟩ := List.exists_mem_of_ne_nil _ some
      have empty := lines line stands.mem other inside
      have least := (bounds_of_mem_matchesOf inside).1
      exact .inr (.inr ⟨start, line, stands, begins, ends, other, inside, by omega⟩)
  · exact .inl (by omega)

/-- A text without matches is left as it is. -/
theorem replaceAll_of_matchesOf_eq_nil (none : regex.matchesOf text = [])
    (replacement : List Char) : regex.replaceAll replacement text = text := by
  rw [replaceAll, none, splice]

end Regex

namespace RuleSet

variable {rules : Dictionary RuleConfig} {inlineConfig : Bool} {set : RuleSet}

/-- No rule of a project takes a line end for a part of a word. -/
theorem spares_of_ofConfig (ready : ofConfig rules inlineConfig = .ok set) {rule : Rule}
    (member : rule ∈ set.rules) : rule.regex.program.SparesLineEnds := by
  obtain ⟨pattern, read⟩ := Rule.exists_pattern_of_ofEntries (rules_of_ofConfig ready).1 member
  exact Regex.spares_of_ofString? read

/-- A rule whose match in a line is not empty has a finding in the lines. -/
theorem exists_finding {rules : List Rule} (path : String) (number : Nat) {lines : List (List Char)}
    {line : List Char} {rule : Rule} {found : Regex.Match} (known : rule ∈ rules)
    (stands : line ∈ lines) (member : found ∈ rule.regex.matchesOf line)
    (nonempty : found.start < found.stop) :
    ∃ finding ∈ findingsFrom rules path number lines, finding.Tells rule := by
  induction lines generalizing number with
  | nil => simp at stands
  | cons first later ih =>
    simp only [findingsFrom, List.mem_append]
    -- The line is the first one, whose matches are told at once, or a later one with a greater
    -- number.
    rcases List.mem_cons.mp stands with rfl | further
    · have told : rule.finding path number line found ∈ rule.lineFindings path number line :=
        List.mem_map_of_mem (List.mem_filter.mpr ⟨member, by simpa using nonempty⟩)
      exact ⟨_, .inl (List.mem_flatMap.mpr ⟨rule, known, told⟩), rfl, rfl, rfl, rfl⟩
    · obtain ⟨finding, inside, tells⟩ := ih (number + 1) further
      exact ⟨finding, .inr inside, tells⟩

/-- Rules without replacements or without matches in a text leave it as it is. -/
theorem foldl_repair {rules : List Rule} {text : List Char}
    (none : ∀ rule ∈ rules, rule.fix.isSome → rule.regex.matchesOf text = []) :
    rules.foldl Rule.repair text = text := by
  induction rules with
  | nil => rfl
  | cons rule later ih =>
    -- A rule that matches nothing replaces nothing, so that the next one is given the same text.
    have own : Rule.repair text rule = text := by
      unfold Rule.repair
      split
      · rename_i replacement fix
        exact Regex.replaceAll_of_matchesOf_eq_nil (none rule List.mem_cons_self (by simp [fix])) _
      · rfl
    rw [List.foldl_cons, own]
    exact ih fun other member => none other (List.mem_cons_of_mem _ member)

/--
A template in which no finding can be repaired is not changed by the replacements, and its findings
stay what they are, unless an active rule with a replacement has a match in the whole text that the
lines do not show.
-/
theorem fix_of_unfixable (ready : ofConfig rules inlineConfig = .ok set) (template : Template)
    (unfixable : ∀ finding ∈ set.verify template, finding.isFixable = false)
    (shown : ∀ rule ∈ set.active template.source, rule.fix.isSome →
      ∀ found ∈ rule.regex.matchesOf template.source.toList,
        ¬rule.regex.Overlooked template.source.toList found) :
    set.fix template = ⟨false, template.source, set.verify template⟩ := by
  have unmatched : ∀ rule ∈ set.active template.source, rule.fix.isSome →
      rule.regex.matchesOf template.source.toList = [] := by
    intro rule active fixes
    have spares := spares_of_ofConfig ready (List.mem_of_mem_filter active)
    refine List.eq_nil_iff_forall_not_mem.mpr fun found member => ?_
    refine shown rule active fixes found member (Regex.overlooked_of_lines spares ?_ member)
    -- A match that is not empty would be told, and the rule could repair it.
    intro line stands other inside nonempty
    obtain ⟨finding, told, _, _, _, fixable⟩ :=
      exists_finding template.filePath 1 active stands inside nonempty
    rw [unfixable finding told] at fixable
    simp [← fixable] at fixes
  have same : set.repair template.source = template.source := by
    rw [repair, foldl_repair unmatched, String.ofList_toList]
  simp [fix, same, verify]

/-- A rule that cannot repair what it finds, and one that can. -/
def sampleSpaces : Dictionary RuleConfig :=
  ⟨[("no-b", sampleRule "b+" none), ("no-space-at-end", sampleRule "(?m) +$" (some ""))], by decide⟩

/-- A template of two lines, of which the first ends with a carriage return too. -/
def sampleLines : Template :=
  ⟨"bb\r\nx b", "a.hbs"⟩

/-- In lines without spaces at their ends only the other rule has findings, which stay. -/
theorem fix_of_unfixable_sample :
    ∃ set, ofConfig sampleSpaces true = .ok set ∧
      (∀ finding ∈ set.verify sampleLines, finding.isFixable = false) ∧
      (set.verify sampleLines).map Finding.place = [("no-b", 1, 0), ("no-b", 2, 2)] ∧
      set.fix sampleLines =
        ⟨false, sampleLines.source, set.verify sampleLines⟩ := by
  -- What is found and that nothing is matched for a repair are computed; the rest follows.
  have facts : (ofConfig sampleSpaces true).toOption.map (fun set =>
      ((set.verify sampleLines).map fun finding => (finding.place, finding.isFixable),
        (set.active sampleLines.source).all fun rule =>
          rule.fix.isNone || rule.regex.matchesOf sampleLines.source.toList = [])) =
        some ([(("no-b", 1, 0), false), (("no-b", 2, 2), false)], true) := by
    decide +kernel
  obtain ⟨set, ready, seen⟩ := Effect.exists_of_toOption_map facts
  simp only [Prod.mk.injEq, List.all_eq_true, Bool.or_eq_true, decide_eq_true_eq] at seen
  obtain ⟨told, unmatched⟩ := seen
  have unfixable : ∀ finding ∈ set.verify sampleLines, finding.isFixable = false := by
    intro finding member
    have listed : (finding.place, finding.isFixable) ∈ (set.verify sampleLines).map
        fun finding => (finding.place, finding.isFixable) := List.mem_map_of_mem member
    rw [told] at listed
    simp only [List.mem_cons, Prod.mk.injEq, List.not_mem_nil, or_false] at listed
    exact listed.elim And.right And.right
  have places := congrArg (List.map Prod.fst) told
  rw [List.map_map] at places
  refine ⟨set, ready, unfixable, places, fix_of_unfixable ready _ unfixable ?_⟩
  intro rule active fixes found member
  have none := (unmatched rule active).resolve_left (by simp [Option.isSome_iff_ne_none.mp fixes])
  rw [none] at member
  exact absurd member List.not_mem_nil

/-- A rule for line feeds, which are taken out. -/
def sampleFeeds : Dictionary RuleConfig :=
  ⟨[("no-feed", sampleRule "\\n" (some ""))], by decide⟩

/-- A line feed is in no line, but it is in the text, so a replacement for it joins two lines. -/
theorem fix_joins_lines :
    ∃ set, ofConfig sampleFeeds true = .ok set ∧
      (∀ finding ∈ set.verify ⟨"a\nb", "a.hbs"⟩, finding.isFixable = false) ∧
      (set.fix ⟨"a\nb", "a.hbs"⟩).isFixed = true ∧ (set.fix ⟨"a\nb", "a.hbs"⟩).output = "ab" := by
  have facts : (ofConfig sampleFeeds true).toOption.map
      (fun set => (set.verify ⟨"a\nb", "a.hbs"⟩, set.fix ⟨"a\nb", "a.hbs"⟩)) =
        some ([], ⟨true, "ab", []⟩) := by
    decide +kernel
  obtain ⟨set, ready, outcome⟩ := Effect.exists_of_toOption_map facts
  simp only [Prod.mk.injEq] at outcome
  exact ⟨set, ready, by simp [outcome.1], by rw [outcome.2], by rw [outcome.2]⟩

end RuleSet

end TemplateLint
