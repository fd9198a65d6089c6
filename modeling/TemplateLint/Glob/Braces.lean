import TemplateLint.Text.Basic

/-! Alternatives in braces. -/

namespace TemplateLint

namespace Glob

/-- A text with a group in braces: what stands before it, its alternatives, what stands after it. -/
def firstGroup (text : List Char) : Option (List Char × List (List Char) × List Char) :=
  match Text.cutAt '{' text with
  | none => none
  | some (head, rest) =>
    match Text.cutAt '}' rest with
    | none => none
    | some (inner, tail) => some (head, Text.splitOn ',' inner, tail)

/-- The texts without groups that a text stands for, expanding at most a number of groups deep. -/
def expandGroups : Nat → List Char → List (List Char)
  | 0, text => [text]
  | groups + 1, text =>
    match firstGroup text with
    | none => [text]
    | some (head, alternatives, tail) =>
      alternatives.flatMap fun alternative => expandGroups groups (head ++ alternative ++ tail)

/-- The texts that a text with groups in braces stands for, the leftmost group varying slowest. -/
def expandBraces (text : List Char) : List (List Char) :=
  -- Every expansion removes an opening brace.
  expandGroups (text.count '{') text

end Glob

end TemplateLint
