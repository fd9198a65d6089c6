import TemplateLint.Proofs.Regex.Reading
import TemplateLint.Proofs.Unicode.Words

/-!
What a regular expression reads within a line of a text it reads in the line alone: seen from there,
line ends are not there, and no look asks for one.
-/

namespace TemplateLint

namespace Regex

/-- A neighbour as it is seen from a line alone: the same one, or none in place of a line end. -/
def SeenAs (whole own : Option Char) : Prop :=
  own = whole ∨ own = none ∧ (whole = none ∨ whole = some '\n' ∨ whole = some '\r')

namespace Look

/-- No line end is taken for a part of a word. -/
def SparesLineEnds : Look → Prop
  | .wordBoundary words | .noWordBoundary words | .wordStart words | .wordEnd words
  | .wordStartHalf words | .wordEndHalf words =>
    words.contains '\n' = false ∧ words.contains '\r' = false
  | _ => True

/-- Seen from a line alone, a neighbour is as much a part of a word as in the whole text. -/
theorem isWord_of_seenAs {words : CharSet} {whole own : Option Char}
    (spares : words.contains '\n' = false ∧ words.contains '\r' = false)
    (seen : SeenAs whole own) : isWord words own = isWord words whole := by
  rcases seen with rfl | ⟨rfl, rfl | rfl | rfl⟩
  · rfl
  · rfl
  · simp [isWord, spares.1]
  · simp [isWord, spares.2]

/-- A look that holds at a place of a text holds there in the line alone. -/
theorem holds_of_seenAs {look : Look} {previous next ownPrevious ownNext : Option Char}
    (spares : look.SparesLineEnds) (seenPrevious : SeenAs previous ownPrevious)
    (seenNext : SeenAs next ownNext) (holds : look.holds previous next = true) :
    look.holds ownPrevious ownNext = true := by
  cases look with
  | wordBoundary words | noWordBoundary words | wordStart words | wordEnd words
  | wordStartHalf words | wordEndHalf words =>
    simpa only [Look.holds, isWord_of_seenAs spares seenPrevious,
      isWord_of_seenAs spares seenNext] using holds
  | textStart | textEnd | lineStart | lineEnd | crlfStart | crlfEnd =>
    -- These only ask for the ends of the text and for line ends, which are not seen.
    rcases seenPrevious with rfl | ⟨rfl, rfl | rfl | rfl⟩ <;>
      rcases seenNext with rfl | ⟨rfl, rfl | rfl | rfl⟩ <;> simp_all [Look.holds]

end Look

namespace Program

/-- No look of a program takes a line end for a part of a word. -/
def SparesLineEnds (program : Program) : Prop :=
  ∀ (point next : Nat) (sought : Look),
    program[point]? = some (.look sought next) → sought.SparesLineEnds

/-- What a program reads of a text it reads wherever the neighbours are seen as in a line alone. -/
theorem Reads.seenAs {program : Program} (spares : program.SparesLineEnds)
    {previous : Option Char} {point : Nat} {text left : List Char}
    (reads : program.Reads previous point text left) {ownPrevious : Option Char}
    {own ownLeft : List Char} (split : text = own ++ left)
    (seenPrevious : SeenAs previous ownPrevious) (seenLeft : SeenAs left.head? ownLeft.head?) :
    program.Reads ownPrevious point (own ++ ownLeft) ownLeft := by
  -- At each step but the first and the last the neighbours are the same.
  induction reads generalizing ownPrevious own with
  | accept instruction =>
    obtain rfl := List.self_eq_append_left.mp split
    exact .accept instruction
  | @read previous point next set c rest left instruction has later ih =>
    cases own with
    | nil =>
      -- The character that is read is not left.
      have shorter := later.suffix.length_le
      rw [← show c :: rest = left from split, List.length_cons] at shorter
      omega
    | cons first others =>
      obtain ⟨rfl, same⟩ := List.cons.inj split
      exact .read instruction has (ih same (.inl rfl) seenLeft)
  | @slide previous point target instruction text left stands leads later ih =>
    have seenNext : SeenAs text.head? (own ++ ownLeft).head? := by
      cases own with
      | nil =>
        obtain rfl : text = left := split
        exact seenLeft
      | cons first others => exact .inl (by rw [split]; rfl)
    refine .slide stands ?_ (ih split seenPrevious seenLeft)
    cases instruction with
    | look sought next =>
      simp only [Instruction.targets] at leads ⊢
      split at leads
      · rename_i holds
        rwa [if_pos (Look.holds_of_seenAs (spares _ _ _ stands) seenPrevious seenNext holds)]
      · simp at leads
    | read | mark | jump | fork | accept => exact leads

end Program

namespace Expression

/-- No look of an expression takes a line end for a part of a word. -/
def SparesLineEnds : Expression → Prop
  | .empty => True
  | .char _ => True
  | .look sought => sought.SparesLineEnds
  | .group _ body => body.SparesLineEnds
  | .sequence first second => first.SparesLineEnds ∧ second.SparesLineEnds
  | .choice first second => first.SparesLineEnds ∧ second.SparesLineEnds
  | .repeated _ _ _ body => body.SparesLineEnds

/-- A repetition looks for nothing that its body does not look for. -/
theorem spares_ofRepetition {body : Expression} (spares : body.SparesLineEnds) (least : Nat)
    (most : Option Nat) (greedy : Bool) :
    (ofRepetition least most greedy body).SparesLineEnds := by
  unfold ofRepetition
  split
  split
  · trivial
  · split
    · exact spares
    · exact spares

/-- The looks in the code of an expression are those of the expression. -/
theorem spares_of_mem_code {expression : Expression} (spares : expression.SparesLineEnds)
    {start next point : Nat} {sought : Look}
    (member : .look sought point ∈ expression.code start next) : sought.SparesLineEnds := by
  induction expression generalizing start next with
  | empty => simp [code] at member
  | char set => simp [code] at member
  | look own =>
    obtain ⟨rfl, _⟩ : sought = own ∧ point = next := by simpa [code] using member
    exact spares
  | group index body ih =>
    exact ih spares (by simpa [code] using member)
  | sequence first second ihFirst ihSecond =>
    simp only [code, List.mem_append] at member
    exact member.elim (ihFirst spares.1) (ihSecond spares.2)
  | choice first second ihFirst ihSecond =>
    simp only [code, List.cons_append, List.mem_cons, reduceCtorEq, List.mem_append, false_or]
      at member
    exact member.elim (ihFirst spares.1) (ihSecond spares.2)
  | repeated least most greedy body ih =>
    -- The code of a repetition is copies of that of its body, and forks and jumps between them.
    have noFork : ∀ {first second},
        .look sought point ≠ Instruction.prefer greedy first second := by
      intro first second
      unfold Instruction.prefer
      split <;> simp
    have copied : ∀ {count width start : Nat} {written : Nat → List Instruction},
        .look sought point ∈ copies count width start written →
          ∃ place, .look sought point ∈ written place := by
      intro count width start written inside
      obtain ⟨n, _, there⟩ := List.mem_flatMap.mp inside
      exact ⟨_, there⟩
    cases most with
    | none =>
      cases least with
      | zero =>
        simp only [code, List.cons_append, List.mem_cons, noFork, List.mem_append,
          List.not_mem_nil, or_false, false_or] at member
        exact ih spares member
      | succ least =>
        simp only [code, List.mem_append, List.mem_singleton, noFork, or_false] at member
        obtain ⟨place, inside⟩ := copied member
        exact ih spares inside
    | some most =>
      simp only [code, List.mem_append, List.mem_singleton, reduceCtorEq, or_false] at member
      rcases member with fixed | optional
      · obtain ⟨place, inside⟩ := copied fixed
        exact ih spares inside
      · obtain ⟨place, inside⟩ := copied optional
        simp only [List.mem_cons, noFork, false_or] at inside
        exact ih spares inside

/-- The program of an expression looks for what the expression looks for. -/
theorem spares_program {expression : Expression} (spares : expression.SparesLineEnds) :
    expression.program.SparesLineEnds := by
  intro point next sought stands
  rw [program, List.getElem?_toArray] at stands
  rcases List.mem_append.mp (List.mem_of_getElem? stands) with inside | last
  · exact spares_of_mem_code spares inside
  · simp at last

end Expression

namespace Flags

/-- The characters that continue a word are no line ends, under any flags. -/
theorem words_lineEnds (flags : Flags) :
    flags.words.contains '\n' = false ∧ flags.words.contains '\r' = false := by
  unfold words
  split
  · exact Unicode.wordCharacters_lineEnds
  · decide

/-- An anchor takes no line end for a part of a word. -/
theorem spares_look (flags : Flags) (place : Anchor) : (flags.look place).SparesLineEnds := by
  -- Where a look depends on words, both line ends are no part of a word.
  cases place with
  | textStart | textEnd => trivial
  | lineStart | lineEnd =>
    simp only [look]
    repeat' split
    all_goals trivial
  | wordBoundary | noWordBoundary | wordStart | wordEnd | wordStartHalf | wordEndHalf =>
    exact flags.words_lineEnds

end Flags

/-- What a pattern means takes no line end for a part of a word. -/
theorem Pattern.spares_of_meaning? {pattern : Pattern} {flags later : Flags}
    {expression : Expression} (meaning : pattern.meaning? flags = some (expression, later)) :
    expression.SparesLineEnds := by
  -- Looks come of anchors alone; all else puts expressions together.
  induction pattern generalizing flags later expression with
  | empty | flags change =>
    obtain ⟨rfl, _⟩ : Expression.empty = expression ∧ _ = later := by
      simpa [Pattern.meaning?] using meaning
    trivial
  | literal _ | anyChar | set _ =>
    simp only [Pattern.meaning?, Option.bind_eq_bind, Option.bind_eq_some_iff, Option.some.injEq,
      Prod.mk.injEq] at meaning
    obtain ⟨_, _, rfl, _⟩ := meaning
    trivial
  | anchor place =>
    obtain ⟨rfl, _⟩ : Expression.look (flags.look place) = expression ∧ flags = later := by
      simpa [Pattern.meaning?] using meaning
    exact flags.spares_look place
  | group kind body ih =>
    cases kind with
    | capturing index | plain change =>
      simp only [Pattern.meaning?, Option.bind_eq_bind, Option.bind_eq_some_iff,
        Option.some.injEq, Prod.mk.injEq] at meaning
      obtain ⟨⟨inner, _⟩, own, rfl, _⟩ := meaning
      have spares := ih own
      exact spares
  | sequence first second ihFirst ihSecond | choice first second ihFirst ihSecond =>
    simp only [Pattern.meaning?, Option.bind_eq_bind, Option.bind_eq_some_iff, Option.some.injEq,
      Prod.mk.injEq] at meaning
    obtain ⟨⟨one, _⟩, ownFirst, ⟨other, _⟩, ownSecond, rfl, _⟩ := meaning
    exact ⟨ihFirst ownFirst, ihSecond ownSecond⟩
  | repeated least most greedy body ih =>
    simp only [Pattern.meaning?, Option.bind_eq_bind, Option.bind_eq_some_iff, Option.some.injEq,
      Prod.mk.injEq] at meaning
    obtain ⟨⟨inner, _⟩, own, rfl, _⟩ := meaning
    exact Expression.spares_ofRepetition (ih own) _ _ _

/-- The program of a regular expression takes no line end for a part of a word. -/
theorem spares_of_ofString? {source : String} {regex : Regex}
    (read : ofString? source = some regex) : regex.program.SparesLineEnds := by
  simp only [ofString?, Option.bind_eq_bind, Option.bind_eq_some_iff] at read
  obtain ⟨⟨pattern, names⟩, _, ⟨expression, flags⟩, meaning, made⟩ := read
  -- A program is made only from an expression that is small enough.
  split at made
  · obtain rfl : Regex.mk source expression.program names = regex := by simpa using made
    exact Expression.spares_program (Pattern.spares_of_meaning? meaning)
  · simp at made

end Regex

end TemplateLint
