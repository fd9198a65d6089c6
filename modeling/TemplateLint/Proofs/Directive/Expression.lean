import TemplateLint.Proofs.Regex.Search
import TemplateLint.Rules.Directive

/-! The regular expression that directives are written by, and what it means. -/

namespace TemplateLint

namespace Directive

open Regex

/-- The regular expression of directives, in writing. -/
def pattern : String :=
  "\\\x7b\\\x7b!(?:--)?\\s*tmplint-disable(?:\\s+([^\x7d]*?))?\\s*(?:--)?\\\x7d\\\x7d"

/-- One character. -/
def letter (c : Char) : Expression :=
  .char (.single c)

/-- Two hyphens, or none. -/
def maybeDashes : Expression :=
  .repeated 0 (some 1) true (.sequence (letter '-') (letter '-'))

/-- As many blanks as there are, and some number at least. -/
def blanksFrom (least : Nat) : Expression :=
  .repeated least none true (.char Unicode.blanks)

/-- Blanks and the names of rules in a group that is as short as it can be, or nothing. -/
def maybeNames : Expression :=
  .repeated 0 (some 1) true (.sequence (blanksFrom 1)
    (.group 1 (.repeated 0 none false (.char (.complement (.single '\x7d'))))))

/-- What follows the first brace in the regular expression of directives. -/
def pieces : List Expression :=
  [letter '\x7b', letter '!', maybeDashes, blanksFrom 0] ++ keyword.map letter ++
    [maybeNames, blanksFrom 0, maybeDashes, letter '\x7d', letter '\x7d']

/-- What the regular expression of directives means. -/
def expression : Expression :=
  pieces.foldl .sequence (letter '\x7b')

/-- The regular expression of directives. -/
def regex : Regex :=
  ⟨pattern, expression.program, []⟩

/-- A single character of ASCII takes one state. -/
theorem cost_letter {c : Char} (ascii : c.toNat < 128) : (letter c).cost = 1 := by
  simp [letter, Expression.cost, Expression.setCost, CharSet.single, CharSet.range,
    CharSet.toRanges, CharSet.normal, CharSet.joined, ascii]

/-- The blanks are ranges in order, each of which takes states. -/
theorem cost_blanks : Expression.setCost Unicode.blanks = 45 := by
  have sorted : Unicode.blanks.toRanges = [(9, 13), (0x20, 0x20), (0x85, 0x85), (0xa0, 0xa0),
      (0x1680, 0x1680), (0x2000, 0x200a), (0x2028, 0x2029), (0x202f, 0x202f), (0x205f, 0x205f),
      (0x3000, 0x3000)] := by
    rw [Unicode.blanks, CharSet.toRanges, CharSet.normal, List.mergeSort_of_pairwise (by simp)]
    rfl
  rw [Expression.setCost, sorted]
  rfl

/-- All characters but a closing brace are two ranges. -/
theorem cost_noBrace : Expression.setCost (.complement (.single '\x7d')) = 29 := by
  rw [Expression.setCost]
  simp [CharSet.single, CharSet.range, CharSet.toRanges, CharSet.normal, CharSet.joined,
    CharSet.gaps]

/-- Expressions in sequence take as many states as all of them together. -/
theorem cost_foldl (first : Expression) (later : List Expression) :
    (later.foldl .sequence first).cost = (later.map Expression.cost).foldl (· + ·) first.cost := by
  induction later generalizing first with
  | nil => rfl
  | cons next others ih => rw [List.foldl_cons, ih, Expression.cost, List.map_cons, List.foldl_cons]

/-- The regular expression of directives is small enough to be used. -/
theorem cost_expression : expression.cost ≤ Expression.costLimit := by
  have sum : expression.cost = _ := cost_foldl (letter '\x7b') pieces
  have ascii : keyword.all (fun c => c.toNat < 128) = true := rfl
  -- All letters of the keyword are of ASCII, so each of them takes one state.
  have word : (keyword.map letter).map Expression.cost = keyword.map fun _ => 1 := by
    rw [List.map_map]
    refine List.map_congr_left fun c member => cost_letter ?_
    simpa using List.all_eq_true.mp ascii c member
  rw [pieces, List.map_append, List.map_append, word] at sum
  simp (disch := decide) only [List.map_cons, List.map_nil, cost_letter, maybeDashes, maybeNames,
    blanksFrom, Expression.cost, cost_blanks, cost_noBrace] at sum
  exact sum.trans_le (by decide)

/-- The regular expression of directives is read, and means what it is said to mean. -/
theorem ofString?_pattern : Regex.ofString? pattern = some regex := by
  -- The pattern is a closed text: reading it and what it means are evaluated together, and the two
  -- steps are told apart afterwards.
  have meaning : (Pattern.parse? pattern.toList).bind (fun read =>
      (read.1.meaning? .standard).map fun meant => (meant.1, read.2)) = some (expression, []) := by
    decide +kernel
  obtain ⟨⟨parsed, names⟩, read, meant⟩ := Option.bind_eq_some_iff.mp meaning
  obtain ⟨⟨own, flags⟩, known, same⟩ := Option.map_eq_some_iff.mp meant
  obtain ⟨isOwn, isNames⟩ : own = expression ∧ names = [] := by simpa using same
  rw [isOwn] at known
  rw [isNames] at read
  exact ofString?_of_meaning read known cost_expression

/-- A character is in its own set alone. -/
theorem contains_single (own c : Char) : (CharSet.single own).contains c = (c == own) := by
  rw [Bool.eq_iff_iff, beq_iff_eq, ← Char.toNat_inj]
  simp only [CharSet.contains, CharSet.single, CharSet.range, CharSet.has, List.any_cons,
    List.any_nil, Bool.or_false, Bool.and_eq_true, decide_eq_true_eq]
  omega

/-- Any other character is in the complement of that set. -/
theorem contains_others (own c : Char) :
    (CharSet.complement (.single own)).contains c = !(c == own) := by
  rw [← contains_single]
  rfl

/-- The blanks of regular expressions are those of texts. -/
theorem contains_blanks (c : Char) : Unicode.blanks.contains c = isBlank c := by
  rw [Bool.eq_iff_iff]
  simp only [CharSet.contains, Unicode.blanks, CharSet.has, List.any_cons, List.any_nil,
    Bool.or_false, Bool.and_eq_true, Bool.or_eq_true, decide_eq_true_eq, isBlank, beq_iff_eq,
    ← Char.toNat_inj, Char.le_def, UInt32.le_iff_toNat_le, Char.toNat]
  -- What is left compares the number of the character with the same bounds on both sides.
  simp only [Char.reduceVal, UInt32.reduceToNat]
  omega

end Directive

end TemplateLint
