import TemplateLint.Regex.Meaning
import TemplateLint.Regex.Parser
import TemplateLint.Regex.Replacement

/-! Regular expressions ready for use. -/

namespace TemplateLint

/-- A regular expression: its text, its program, and the names of its groups. -/
structure Regex where
  source : String
  program : Regex.Program
  names : List (List Char × Nat)
  deriving Repr, DecidableEq, Inhabited

namespace Regex

/-- The regular expression that a text writes, unless its automaton is too large. -/
def ofString? (source : String) : Option Regex := do
  let (pattern, names) ← Pattern.parse? source.toList
  let (expression, _) ← pattern.meaning? .standard
  if expression.cost ≤ Expression.costLimit then some ⟨source, expression.program, names⟩ else none

/-- All matches of a text, leftmost first and without overlap. -/
def matchesOf (regex : Regex) (text : List Char) : List Match :=
  regex.program.matchesFrom 0 none 0 none text

/-- A text with each match replaced, where a replacement may refer to groups. -/
def replaceAll (regex : Regex) (replacement text : List Char) : List Char :=
  let parts := replacementParts 0 replacement
  let replace (found : Match) : List Char :=
    parts.flatMap (·.expand regex.names text found)
  splice replace 0 text (regex.matchesOf text)

end Regex

end TemplateLint
