import Mathlib.Data.List.TakeWhile
import TemplateLint.Regex.Basic

/-!
The search for matches step by step. The matches of a text stand in order: each starts within the
text and after the one before.
-/

namespace TemplateLint

namespace Regex

/-- A regular expression is read from a pattern whose meaning is small enough. -/
theorem ofString?_of_meaning {source : String} {pattern : Pattern} {names : List (List Char × Nat)}
    {expression : Expression} {flags : Flags}
    (read : Pattern.parse? source.toList = some (pattern, names))
    (meaning : pattern.meaning? .standard = some (expression, flags))
    (small : expression.cost ≤ Expression.costLimit) :
    ofString? source = some ⟨source, expression.program, names⟩ := by
  simp [ofString?, read, meaning, small]

namespace Program

variable {program : Program} {index : Nat} {previous : Option Char}

/-- Without threads nothing more is found. -/
theorem longest_nil (best : Option (Nat × Marks)) (text : List Char) :
    program.longest index previous [] best text = best := by
  cases text <;> simp [longest, waiting, settle]

/-- What is found depends on the threads that wait alone. -/
theorem longest_congr {threads others : List Thread} {best : Option (Nat × Marks)}
    (same : ∀ next, program.waiting ⟨index, previous, next⟩ threads =
      program.waiting ⟨index, previous, next⟩ others) (text : List Char) :
    program.longest index previous threads best text =
      program.longest index previous others best text := by
  cases text <;> simp only [longest, same]

/-- Where no thread accepts nothing is found at the end of a text. -/
theorem longest_end {threads settled : List Thread}
    (own : program.waiting ⟨index, previous, none⟩ threads = settled)
    (goesOn : ∀ thread ∈ settled, program.accepts thread = false) :
    program.longest index previous threads none [] = none := by
  have none : settled.find? program.accepts = none :=
    List.find?_eq_none.mpr fun thread member => by simp [goesOn thread member]
  rw [longest, own, none]

/-- Where no thread accepts the threads go on that read the next character. -/
theorem longest_cons {threads settled : List Thread} {c : Char} (rest : List Char)
    (own : program.waiting ⟨index, previous, some c⟩ threads = settled)
    (goesOn : ∀ thread ∈ settled, program.accepts thread = false) :
    program.longest index previous threads none (c :: rest) =
      program.longest (index + 1) (some c) (settled.filterMap (program.advance? c)) none rest := by
  -- No thread accepts, so that none of them is cut off and nothing is found yet.
  have none : settled.find? program.accepts = none :=
    List.find?_eq_none.mpr fun thread member => by simp [goesOn thread member]
  have all : settled.takeWhile (fun thread => !program.accepts thread) = settled :=
    List.takeWhile_eq_self_iff.mpr fun thread member => by simp [goesOn thread member]
  simp only [longest, own, none, all]
  split
  · rename_i nothing
    rw [nothing, longest_nil]
  · rfl

end Program

/-- A match starts where it was looked for. -/
theorem start_of_matchAt? {program : Program} {index : Nat} {previous : Option Char}
    {rest : List Char} {found : Match}
    (matched : program.matchAt? index previous rest = some found) : found.start = index := by
  obtain ⟨stop, _, rfl⟩ := Option.map_eq_some_iff.mp matched
  rfl

/-- Matches from a place on start there at the earliest, and at the end of the text at latest. -/
theorem start_of_mem_matchesFrom {program : Program} {index : Nat} {previous : Option Char}
    {skipped : Nat} {stopped : Option Nat} {text : List Char} {found : Match}
    (member : found ∈ program.matchesFrom index previous skipped stopped text) :
    index ≤ found.start ∧ found.start ≤ index + text.length := by
  -- A place that is passed over, or at which nothing matches, leaves the search to the next one.
  fun_induction Program.matchesFrom program index previous skipped stopped text with
  | case1 index _ skipped stopped c rest ih =>
    have bounds := ih member
    simp only [List.length_cons]
    omega
  | case2 => simp at member
  | case3 index previous stopped =>
    have matched := (Option.filter_eq_some_iff.mp (Option.mem_toList.mp member)).1
    have start := start_of_matchAt? matched
    simp [start]
  | case4 index previous stopped c rest here skipped own filtered ih =>
    rcases List.mem_cons.mp member with rfl | later
    · have start := start_of_matchAt? (Option.filter_eq_some_iff.mp filtered).1
      simp [start]
    · have bounds := ih later
      simp only [List.length_cons]
      omega
  | case5 index previous stopped c rest own filtered ih =>
    have bounds := ih member
    simp only [List.length_cons]
    omega

/-- Each match starts after the one before it. -/
theorem pairwise_matchesFrom (program : Program) (index : Nat) (previous : Option Char)
    (skipped : Nat) (stopped : Option Nat) (text : List Char) :
    (program.matchesFrom index previous skipped stopped text).Pairwise
      fun first second => first.start < second.start := by
  fun_induction Program.matchesFrom program index previous skipped stopped text with
  | case1 index _ skipped stopped c rest ih => exact ih
  | case2 => exact .nil
  | case3 index previous stopped own =>
    clear_value own
    cases own <;> simp
  | case4 index previous stopped c rest here skipped own filtered ih =>
    refine List.pairwise_cons.mpr ⟨?_, ih⟩
    -- The match starts here, and all others are looked for beyond this place.
    intro other later
    have start := start_of_matchAt? (Option.filter_eq_some_iff.mp filtered).1
    have bounds := start_of_mem_matchesFrom later
    omega
  | case5 index previous stopped c rest own filtered ih => exact ih

/-- Each match in a text starts after the one before it. -/
theorem pairwise_matchesOf (regex : Regex) (text : List Char) :
    (regex.matchesOf text).Pairwise fun first second => first.start < second.start :=
  pairwise_matchesFrom regex.program 0 none 0 none text

/-- A match starts within the text or at its end. -/
theorem start_le_length {regex : Regex} {text : List Char} {found : Match}
    (member : found ∈ regex.matchesOf text) : found.start ≤ text.length := by
  have bounds := start_of_mem_matchesFrom member
  omega

end Regex

end TemplateLint
