import TemplateLint.Proofs.Regex.Reading

/-!
The matches of a text: each is what is found at its place, they do not overlap, and where a text has
none there is nothing to be found at any place.
-/

namespace TemplateLint

namespace Regex

namespace Program

variable {program : Program} {index skipped : Nat} {previous : Option Char} {text : List Char}

/-- The character before a place is the last one that was passed, or the one before all. -/
theorem getLast?_cons_or (c : Char) (before : List Char) (previous : Option Char) :
    (c :: before).getLast?.or previous = before.getLast?.or (some c) := by
  rw [List.getLast?_cons]
  cases before.getLast? <;> rfl

/-- A match is found in a text that begins at a place, with as many characters skipped as told. -/
def FindsIn (program : Program) (index : Nat) (previous : Option Char) (skipped : Nat)
    (text : List Char) (found : Match) : Prop :=
  ∃ before after, text = before ++ after ∧ found.start = index + before.length ∧
    skipped ≤ before.length ∧
    program.matchAt? found.start (before.getLast?.or previous) after = some found

/-- What is found behind a character is found in the text with that character. -/
theorem FindsIn.cons {c : Char} {found : Match}
    (finds : program.FindsIn (index + 1) (some c) skipped text found) :
    program.FindsIn index previous (skipped + 1) (c :: text) found := by
  obtain ⟨before, after, rfl, start, enough, matched⟩ := finds
  refine ⟨c :: before, after, rfl, ?_, ?_, ?_⟩
  · rw [List.length_cons]
    omega
  · rw [List.length_cons]
    omega
  · rwa [getLast?_cons_or]

/-- Where more is skipped less is found. -/
theorem FindsIn.mono {fewer : Nat} {found : Match}
    (finds : program.FindsIn index previous skipped text found) (less : fewer ≤ skipped) :
    program.FindsIn index previous fewer text found := by
  obtain ⟨before, after, split, start, enough, matched⟩ := finds
  exact ⟨before, after, split, start, by omega, matched⟩

/-- A match of a text is found where it starts. -/
theorem findsIn_of_mem_matchesFrom {stopped : Option Nat} {found : Match}
    (member : found ∈ program.matchesFrom index previous skipped stopped text) :
    program.FindsIn index previous skipped text found := by
  -- Whatever is told at a place has been found there, whether or not it is empty.
  have here : ∀ {index : Nat} {previous : Option Char} {text : List Char} {kept : Match → Bool},
      (program.matchAt? index previous text).filter kept = some found →
        program.FindsIn index previous 0 text found := by
    intro index previous text kept filtered
    have matched := (Option.filter_eq_some_iff.mp filtered).1
    have start := start_of_matchAt? matched
    exact ⟨[], text, rfl, by simpa using start, Nat.zero_le _, by simpa [start] using matched⟩
  fun_induction Program.matchesFrom program index previous skipped stopped text with
  | case1 index _ skipped stopped c rest ih => exact (ih member).cons
  | case2 => simp at member
  | case3 index previous stopped => exact here (Option.mem_toList.mp member)
  | case4 index previous stopped c rest here' skipped own filtered ih =>
    rcases List.mem_cons.mp member with rfl | later
    · exact here filtered
    · exact (ih later).cons.mono (Nat.zero_le _)
  | case5 index previous stopped c rest own filtered ih =>
    exact (ih member).cons.mono (Nat.zero_le _)

/-- Where a text has no matches nothing is found at any place of it. -/
theorem matchAt?_of_matchesFrom_eq_nil
    (none : program.matchesFrom index previous 0 Option.none text = []) {before after : List Char}
    (split : text = before ++ after) :
    program.matchAt? (index + before.length) (before.getLast?.or previous) after = Option.none := by
  -- No match has stopped anywhere, so even an empty one would have been told.
  have told : ∀ (index : Nat) (found : Option Match),
      found.filter (fun found => found.stop ≠ index || Option.none ≠ some index) = found := by
    intro index found
    cases found <;> simp
  induction text generalizing index previous before with
  | nil =>
    obtain ⟨rfl, rfl⟩ := List.append_eq_nil_iff.mp split.symm
    rw [matchesFrom, told] at none
    simpa using Option.toList_eq_nil_iff.mp none
  | cons c rest ih =>
    unfold matchesFrom at none
    simp only [told] at none
    cases found : program.matchAt? index previous (c :: rest) with
    | some first => simp [found] at none
    | none =>
      simp only [found] at none
      cases before with
      | nil =>
        obtain rfl : c :: rest = after := split
        simpa using found
      | cons first passed =>
        obtain ⟨rfl, rfl⟩ := List.cons.inj split
        rw [getLast?_cons_or, List.length_cons, Nat.add_comm passed.length, ← Nat.add_assoc]
        exact ih none rfl

/-- Each match ends before or where the next one starts. -/
theorem pairwise_stop_matchesFrom (program : Program) (index : Nat) (previous : Option Char)
    (skipped : Nat) (stopped : Option Nat) (text : List Char) :
    (program.matchesFrom index previous skipped stopped text).Pairwise
      fun first second => first.stop ≤ second.start := by
  fun_induction Program.matchesFrom program index previous skipped stopped text with
  | case1 index _ skipped stopped c rest ih => exact ih
  | case2 => exact .nil
  | case3 index previous stopped own =>
    clear_value own
    cases own <;> simp
  | case4 index previous stopped c rest here skipped own filtered ih =>
    -- Every later match is found at a place that the search has reached after it has passed over
    -- this one.
    refine List.pairwise_cons.mpr ⟨?_, ih⟩
    intro other later
    obtain ⟨before, _, _, start, enough, _⟩ := findsIn_of_mem_matchesFrom later
    omega
  | case5 index previous stopped c rest own filtered ih => exact ih

end Program

variable {regex : Regex} {text : List Char}

/-- A match of a text stands in the text, and is what is found at its place. -/
theorem exists_of_mem_matchesOf {found : Match} (member : found ∈ regex.matchesOf text) :
    ∃ before after, text = before ++ after ∧ found.start = before.length ∧
      regex.program.matchAt? found.start before.getLast? after = some found := by
  obtain ⟨before, after, split, start, _, matched⟩ := Program.findsIn_of_mem_matchesFrom member
  refine ⟨before, after, split, ?_, ?_⟩
  · rwa [Nat.zero_add] at start
  · rwa [Option.or_none] at matched

/-- A match of a text stops where it starts or later, within the text. -/
theorem bounds_of_mem_matchesOf {found : Match} (member : found ∈ regex.matchesOf text) :
    found.start ≤ found.stop ∧ found.stop ≤ text.length := by
  obtain ⟨before, after, rfl, start, matched⟩ := exists_of_mem_matchesOf member
  have bounds := Program.bounds_of_matchAt? matched
  rw [List.length_append]
  omega

/-- In a text without matches the program can read nothing at any place. -/
theorem not_reads_of_matchesOf_eq_nil (none : regex.matchesOf text = [])
    {before after left : List Char} (split : text = before ++ after) :
    ¬regex.program.Reads before.getLast? 0 after left := by
  intro reads
  have nothing := Program.matchAt?_of_matchesFrom_eq_nil none split
  have found := (Program.isSome_matchAt?_iff (0 + before.length)).mpr ⟨left, reads⟩
  rw [Option.or_none] at nothing
  rw [nothing] at found
  exact Bool.false_ne_true found

/-- The matches of a text do not overlap. -/
theorem pairwise_stop_matchesOf (regex : Regex) (text : List Char) :
    (regex.matchesOf text).Pairwise fun first second => first.stop ≤ second.start :=
  Program.pairwise_stop_matchesFrom regex.program 0 none 0 none text

end Regex

end TemplateLint
