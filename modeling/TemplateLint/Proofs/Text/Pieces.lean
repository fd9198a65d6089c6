import TemplateLint.Proofs.Files.Path

/-!
Texts in pieces: a cut at a separator, the pieces between separators, words between blanks, and what
follows an opening piece.
-/

namespace TemplateLint

namespace Text

/-- Only a text without the separator is not cut. -/
theorem cutAt_eq_none_iff {separator : Char} {text : List Char} :
    cutAt separator text = none ↔ separator ∉ text := by
  induction text with
  | nil => simp [cutAt]
  | cons c rest ih =>
    by_cases same : c = separator
    · simp [cutAt, same]
    · simp [cutAt, same, ih, Ne.symm same]

/-- A text is cut at a separator with none before it. -/
theorem cutAt_append {separator : Char} {before : List Char} (absent : separator ∉ before)
    (after : List Char) :
    cutAt separator (before ++ separator :: after) = some (before, after) := by
  -- The cut moves on through the part before the separator, none of whose characters is one.
  induction before with
  | nil => simp [cutAt]
  | cons c rest ih =>
    simp only [List.mem_cons, not_or] at absent
    rw [List.cons_append, cutAt, if_neg (Ne.symm absent.1), ih absent.2, Option.map_some]

/-- A text that is cut consists of what stands before a separator, the separator and the rest. -/
theorem cutAt_eq_some {separator : Char} {text before after : List Char}
    (cut : cutAt separator text = some (before, after)) :
    text = before ++ separator :: after ∧ separator ∉ before := by
  -- Either the text starts with the separator, or its first character stands before the cut of the
  -- rest.
  induction text generalizing before with
  | nil => simp [cutAt] at cut
  | cons c rest ih =>
    rw [cutAt] at cut
    split at cut
    · rename_i same
      obtain ⟨rfl, rfl⟩ : [] = before ∧ rest = after := by simpa using cut
      simp [same]
    · rename_i differ
      obtain ⟨⟨early, late⟩, inner, same⟩ := Option.map_eq_some_iff.mp cut
      obtain ⟨rfl, rfl⟩ : c :: early = before ∧ late = after := by simpa using same
      obtain ⟨rfl, absent⟩ := ih inner
      exact ⟨rfl, by simp [Ne.symm differ, absent]⟩

/-- Pieces without separators are what the text that joins them is split into. -/
theorem splitOn_joinWith {separator : Char} {pieces : List (List Char)} (some : pieces ≠ [])
    (whole : ∀ piece ∈ pieces, separator ∉ piece) :
    splitOn separator (joinWith [separator] pieces) = pieces := by
  induction pieces with
  | nil => exact absurd rfl some
  | cons piece later ih =>
    have own := splitOn_of_not_mem (whole piece List.mem_cons_self)
    -- The last piece has no separator behind it.
    cases later with
    | nil => simpa [joinWith] using own
    | cons next others =>
      have rest := ih (by simp) fun other member => whole other (List.mem_cons_of_mem _ member)
      rw [joinWith, List.append_assoc, List.singleton_append, splitOn_append, own, rest]
      rfl

/-- Pieces are put together as lists are with a list between them. -/
theorem joinWith_eq_intercalate (separator : List Char) (pieces : List (List Char)) :
    joinWith separator pieces = separator.intercalate pieces := by
  induction pieces with
  | nil => rfl
  | cons piece later ih =>
    cases later with
    | nil => simp [joinWith]
    | cons next others => simp [joinWith, ih]

/-- Pieces put together end as the last of them does, if it is not empty. -/
theorem getLast?_joinWith {separator : List Char} {pieces : List (List Char)} {last : List Char}
    (ends : pieces.getLast? = some last) (full : last ≠ []) :
    (joinWith separator pieces).getLast? = last.getLast? := by
  induction pieces with
  | nil => simp at ends
  | cons piece later ih =>
    -- All pieces but the last stand before the end, and the last is not empty.
    cases later with
    | nil =>
      obtain rfl : piece = last := by simpa using ends
      rfl
    | cons next others =>
      rw [joinWith, List.getLast?_append, ih (by simpa using ends)]
      cases rest : last.getLast? with
      | none => exact absurd (List.getLast?_eq_none_iff.mp rest) full
      | some c => rfl

/-- Nothing is dropped from a text whose last character stays. -/
theorem dropEndWhile_of_stays {drop : Char → Bool} {text : List Char}
    (stays : ∀ c ∈ text.getLast?, drop c = false) : dropEndWhile drop text = text := by
  -- What is dropped from the end is dropped from the start of the reversed text.
  rw [← List.reverse_reverse text] at stays ⊢
  rw [List.getLast?_reverse] at stays
  cases reversed : text.reverse with
  | nil => simp [dropEndWhile]
  | cons c rest =>
    have kept : drop c = false := stays c (by simp [reversed])
    rw [dropEndWhile, List.reverse_reverse, List.dropWhile_cons_of_neg (by simp [kept])]

/-- The pieces of a text put together again are the text. -/
theorem joinWith_splitOn (separator : Char) (text : List Char) :
    joinWith [separator] (splitOn separator text) = text := by
  induction text with
  | nil => rfl
  | cons c rest ih =>
    obtain ⟨piece, later, pieces⟩ := List.exists_cons_of_ne_nil (splitOn_ne_nil separator rest)
    rw [pieces] at ih
    by_cases same : c = separator
    · rw [splitOn, if_pos same, pieces, joinWith, ih, same]
      rfl
    · -- The character comes to the first piece, which stands at the start of the rest.
      simp only [splitOn, if_neg same, pieces]
      cases later with
      | nil => exact congrArg (c :: ·) ih
      | cons next others => exact congrArg (c :: ·) ih

/-- A character in joined pieces is in one of them, or separates them. -/
theorem mem_of_mem_joinWith {separator c : Char} {pieces : List (List Char)}
    (member : c ∈ joinWith [separator] pieces) : c = separator ∨ ∃ piece ∈ pieces, c ∈ piece := by
  induction pieces with
  | nil => simp [joinWith] at member
  | cons piece later ih =>
    cases later with
    | nil => exact .inr ⟨piece, List.mem_cons_self, by simpa [joinWith] using member⟩
    | cons next others =>
      -- Before the later pieces stand a piece and its separator.
      simp only [joinWith, List.mem_append, List.mem_singleton] at member
      rcases member with (own | same) | rest
      · exact .inr ⟨piece, List.mem_cons_self, own⟩
      · exact .inl same
      · rcases ih rest with same | ⟨other, known, inside⟩
        · exact .inl same
        · exact .inr ⟨other, List.mem_cons_of_mem _ known, inside⟩

/-- A blank in front of a text adds no word. -/
theorem words_blank {c : Char} (blank : isBlank c = true) (rest : List Char) :
    words (c :: rest) = words rest := by
  rw [words.eq_def]
  simp only [blank, if_true]

/-- A word goes on to the next blank, and the other words come after it. -/
theorem words_cons {c : Char} (noBlank : isBlank c = false) (rest : List Char) :
    words (c :: rest) =
      (c :: rest.takeWhile (!isBlank ·)) :: words (rest.dropWhile (!isBlank ·)) := by
  -- The induction is on the text behind the first character of the word.
  induction rest generalizing c with
  | nil => simp [words, noBlank]
  | cons next later ih =>
    rw [words, if_neg (by simp [noBlank])]
    cases blank : isBlank next with
    | true => simp [blank]
    | false => simp [blank, ih blank]

/-- Blanks in front of a text add no word. -/
theorem words_append_of_blank {blanks : List Char} (blank : ∀ c ∈ blanks, isBlank c = true)
    (rest : List Char) : words (blanks ++ rest) = words rest := by
  induction blanks with
  | nil => rfl
  | cons c later ih =>
    rw [List.cons_append, words_blank (blank c List.mem_cons_self)]
    exact ih fun other member => blank other (List.mem_cons_of_mem _ member)

/-- A name is a word when a blank or nothing follows it. -/
theorem words_append_of_noBlank {name : List Char} (some : name ≠ [])
    (noBlank : ∀ c ∈ name, isBlank c = false) {rest : List Char}
    (ends : ∀ c ∈ rest.head?, isBlank c = true) : words (name ++ rest) = name :: words rest := by
  -- The first word of the text goes through all of the name and not into the rest.
  obtain ⟨c, later, rfl⟩ := List.exists_cons_of_ne_nil some
  have goesOn : ∀ other ∈ later, (!isBlank other) = true := by
    intro other member
    rw [noBlank other (List.mem_cons_of_mem _ member), Bool.not_false]
  have stops : rest.takeWhile (!isBlank ·) = [] ∧ rest.dropWhile (!isBlank ·) = rest := by
    cases rest with
    | nil => exact ⟨rfl, rfl⟩
    | cons next others => simp [ends next rfl]
  rw [List.cons_append, words_cons (noBlank c List.mem_cons_self),
    List.takeWhile_append_of_pos goesOn, List.dropWhile_append_of_pos goesOn, stops.1, stops.2,
    List.append_nil]

/-- Blanks behind a text add no word. -/
theorem words_append_blanks (text : List Char) {blanks : List Char}
    (blank : ∀ c ∈ blanks, isBlank c = true) : words (text ++ blanks) = words text := by
  -- Behind a last character that is no blank the blanks end its word, and add none of their own.
  induction text with
  | nil => simpa [words] using words_append_of_blank blank []
  | cons c rest ih =>
    cases isOne : isBlank c with
    | true => rw [List.cons_append, words_blank isOne, words_blank isOne, ih]
    | false =>
      cases rest with
      | nil =>
        have ends : ∀ next ∈ blanks.head?, isBlank next = true :=
          fun next first => blank next (List.mem_of_mem_head? first)
        have word := words_append_of_noBlank (List.cons_ne_nil c []) (by simp [isOne]) ends
        have none := words_append_of_blank blank []
        rw [List.append_nil] at none
        rw [word, none]
        simp [words, isOne]
      | cons next later =>
        -- With two characters before the blanks, what becomes of the first depends on the second
        -- alone.
        rw [List.cons_append] at ih
        rw [List.cons_append, List.cons_append, words.eq_def (c :: next :: (later ++ blanks)),
          words.eq_def (c :: next :: later)]
        simp only [ih]

/-- A text is read after an opening piece when it starts with that piece. -/
theorem after?_eq_some_iff {opening text rest : List Char} :
    after? opening text = some rest ↔ text = opening ++ rest := by
  -- The piece and the text are compared character by character, from the front.
  induction opening generalizing text with
  | nil => simp [after?, eq_comm]
  | cons o opening ih =>
    cases text with
    | nil => simp [after?]
    | cons c text =>
      by_cases same : o = c
      · simp [after?, same, ih]
      · simp [after?, same, Ne.symm same]

/-- Only a text that does not start with the opening piece is not read after it. -/
theorem after?_eq_none_iff {opening text : List Char} :
    after? opening text = none ↔ ¬ opening <+: text := by
  cases read : after? opening text with
  | none => simpa using fun ⟨rest, same⟩ => by simp [after?_eq_some_iff.mpr same.symm] at read
  | some rest => simpa using ⟨rest, (after?_eq_some_iff.mp read).symm⟩

/-- A text is read after an opening piece character by character. -/
theorem after?_cons (o : Char) (opening text : List Char) :
    after? (o :: opening) text = (after? [o] text).bind (after? opening) := by
  cases text with
  | nil => rfl
  | cons c rest => by_cases same : o = c <;> simp [after?, same]

end Text

end TemplateLint
