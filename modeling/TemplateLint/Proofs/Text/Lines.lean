import TemplateLint.Text.Basic

/-! How a text that ends with its last line falls into lines when more text follows. -/

namespace TemplateLint

namespace Text

/-- The text is empty or its last line is ended by a line feed. -/
def IsClosed (text : List Char) : Prop :=
  text = [] ∨ text.getLast? = some '\n'

/-- What follows the first character of a closed text is closed. -/
theorem isClosed_cons {c : Char} {text : List Char} (closed : IsClosed (c :: text)) :
    IsClosed text := by
  -- The last character of a longer text is the last character of its tail.
  rcases closed with empty | last
  · simp at empty
  · cases text with
    | nil => exact .inl rfl
    | cons next rest => exact .inr (by simpa [List.getLast?_cons_cons] using last)

/-- A closed text that follows a closed text is closed together with it. -/
theorem isClosed_append {first second : List Char} (firstClosed : IsClosed first)
    (secondClosed : IsClosed second) : IsClosed (first ++ second) := by
  rcases secondClosed with empty | last
  · subst empty
    simpa using firstClosed
  · exact .inr (by simp [List.getLast?_append, last])

/-- A character that opens a line and ends none joins the first line after it. -/
theorem lines_cons {c : Char} {rest : List Char} (noFeed : c ≠ '\n')
    (noReturn : ∀ later, c = '\r' → rest ≠ '\n' :: later) :
    lines (c :: rest) =
      match lines rest with
      | [] => [[c]]
      | line :: later => (c :: line) :: later :=
  lines.eq_4 c rest noFeed noReturn

/-- Only the empty text has no lines. -/
theorem eq_nil_of_lines_eq_nil {text : List Char} (none : lines text = []) : text = [] := by
  cases text with
  | nil => rfl
  | cons c rest =>
    -- Whatever the first character is, some line comes of it.
    unfold lines at none
    split at none
    · assumption
    · simp at none
    · simp at none
    · split at none <;> simp at none

/-- The lines of closed text come first, and the lines of what follows come after them. -/
theorem lines_append {text : List Char} (closed : IsClosed text) (more : List Char) :
    lines (text ++ more) = lines text ++ lines more := by
  -- The recursion of `lines` consumes a whole line end at once, so it is followed case by case.
  induction text using lines.induct with
  | case1 => rfl
  | case2 rest ih => simp [lines, ih (isClosed_cons closed)]
  | case3 rest ih => simp [lines, ih (isClosed_cons (isClosed_cons closed))]
  | case4 c rest noFeed noReturn none ih =>
    -- A text without lines is empty, so the character before it would be an open last line.
    have empty : rest = [] := eq_nil_of_lines_eq_nil none
    subst empty
    rcases closed with nothing | last
    · simp at nothing
    · exact absurd (by simpa using last) noFeed
  | case5 c rest noFeed noReturn line later some ih =>
    have nonempty : rest ≠ [] := by
      intro empty
      simp [empty, lines] at some
    have stillNoReturn : ∀ others, c = '\r' → rest ++ more ≠ '\n' :: others := by
      intro others same follows
      cases rest with
      | nil => exact nonempty rfl
      | cons next tail =>
        simp only [List.cons_append, List.cons.injEq] at follows
        exact noReturn tail same (by rw [follows.1])
    have alone := lines_cons noFeed fun others same follows => noReturn others same follows
    rw [List.cons_append, lines_cons noFeed stillNoReturn, ih (isClosed_cons closed), alone, some]
    rfl

/--
A line without line feeds of its own, once ended, is the first line of the text, save that a
carriage return at its end would go with the line feed.
-/
theorem lines_line {line : List Char} (whole : '\n' ∉ line) (kept : line.getLast? ≠ some '\r')
    (rest : List Char) : lines (line ++ '\n' :: rest) = line :: lines rest := by
  induction line with
  | nil => simp [lines]
  | cons c line ih =>
    simp only [List.mem_cons, not_or] at whole
    -- A carriage return that is not the last character is followed by another than a line feed.
    have noReturn : ∀ later, c = '\r' → line ++ '\n' :: rest ≠ '\n' :: later := by
      rintro later rfl follows
      cases line with
      | nil => exact kept rfl
      | cons next others =>
        obtain ⟨rfl, _⟩ := List.cons.inj follows
        exact whole.2 List.mem_cons_self
    have keptLater : line.getLast? ≠ some '\r' := by
      intro last
      cases line with
      | nil => simp at last
      | cons next others => exact kept (by rw [List.getLast?_cons_cons]; exact last)
    rw [List.cons_append, lines_cons (Ne.symm whole.1) noReturn, ih whole.2 keptLater]

/-- A text without line feeds is one line, unless it is empty. -/
theorem lines_open {line : List Char} (whole : '\n' ∉ line) (some : line ≠ []) :
    lines line = [line] := by
  induction line with
  | nil => exact absurd rfl some
  | cons c rest ih =>
    simp only [List.mem_cons, not_or] at whole
    -- Without a line feed no carriage return is left out.
    have noReturn : ∀ later, c = '\r' → rest ≠ '\n' :: later := by
      rintro later _ rfl
      exact whole.2 List.mem_cons_self
    rw [lines_cons (Ne.symm whole.1) noReturn]
    cases rest with
    | nil => rfl
    | cons next later => rw [ih whole.2 (by simp)]

/-- What stands after the last line feed of a text: its last line, if that is not ended. -/
def openLine (text : List Char) : List Char :=
  (text.reverse.takeWhile (· ≠ '\n')).reverse

/-- There is no line feed in a line that is not ended. -/
theorem not_mem_openLine (text : List Char) : '\n' ∉ openLine text := by
  intro member
  have passed := List.all_eq_true.mp List.all_takeWhile '\n' (List.mem_reverse.mp member)
  simp at passed

/-- All of a text but the line that is not ended is closed. -/
theorem exists_closed (text : List Char) :
    ∃ ended, IsClosed ended ∧ text = ended ++ openLine text := by
  refine ⟨(text.reverse.dropWhile (· ≠ '\n')).reverse, ?_, ?_⟩
  · -- What is left from the end on begins with the last line feed.
    have first := List.head?_dropWhile_not (· ≠ '\n') text.reverse
    cases left : text.reverse.dropWhile (· ≠ '\n') with
    | nil => exact .inl rfl
    | cons c later =>
      rw [left] at first
      refine .inr ?_
      rw [List.getLast?_reverse]
      simpa using first
  · rw [openLine, ← List.reverse_append, List.takeWhile_append_dropWhile, List.reverse_reverse]

/-- The first of the lines of a text are those of the closed text in front of the others. -/
theorem exists_of_lines_append {text : List Char} {before after : List (List Char)}
    (split : lines text = before ++ after) (more : after ≠ []) :
    ∃ earlier rest, text = earlier ++ rest ∧ IsClosed earlier ∧ lines earlier = before ∧
      lines rest = after := by
  -- The recursion of `lines` takes the lines in turn, and what is closed grows at its front.
  induction text using lines.induct generalizing before with
  | case1 =>
    have nothing : before ++ after = [] := by rw [← split, lines]
    exact absurd (List.append_eq_nil_iff.mp nothing).2 more
  | case2 rest ih =>
    cases before with
    | nil => exact ⟨[], _, rfl, .inl rfl, rfl, split⟩
    | cons first later =>
      rw [lines, List.cons_append] at split
      obtain ⟨rfl, following⟩ := List.cons.inj split
      obtain ⟨earlier, behind, rfl, closed, own, others⟩ := ih following
      have feed : IsClosed ['\n'] := .inr rfl
      refine ⟨'\n' :: earlier, behind, rfl, isClosed_append feed closed, ?_, others⟩
      rw [lines, own]
  | case3 rest ih =>
    cases before with
    | nil => exact ⟨[], _, rfl, .inl rfl, rfl, split⟩
    | cons first later =>
      rw [lines, List.cons_append] at split
      obtain ⟨rfl, following⟩ := List.cons.inj split
      obtain ⟨earlier, behind, rfl, closed, own, others⟩ := ih following
      have feed : IsClosed ['\r', '\n'] := .inr rfl
      refine ⟨'\r' :: '\n' :: earlier, behind, rfl, isClosed_append feed closed, ?_, others⟩
      rw [lines, own]
  | case4 c rest noFeed noReturn none ih =>
    cases before with
    | nil => exact ⟨[], _, rfl, .inl rfl, rfl, split⟩
    | cons first later =>
      -- There is one line alone, and it is not among the first.
      rw [lines_cons noFeed fun others same follows => noReturn others same follows, none,
        List.cons_append] at split
      have nothing := (List.cons.inj split).2
      exact absurd (List.append_eq_nil_iff.mp nothing.symm).2 more
  | case5 c rest noFeed noReturn line later some ih =>
    cases before with
    | nil => exact ⟨[], _, rfl, .inl rfl, rfl, split⟩
    | cons first others =>
      rw [lines_cons noFeed fun others same follows => noReturn others same follows, some,
        List.cons_append] at split
      obtain ⟨rfl, rfl⟩ := List.cons.inj split
      have following : lines rest = (line :: others) ++ after := some
      obtain ⟨earlier, behind, rfl, closed, own, split⟩ := ih following
      -- What comes before the others has a line, so its end is not the new character.
      have nonempty : earlier ≠ [] := by
        rintro rfl
        simp [lines] at own
      have ended : IsClosed (c :: earlier) := by
        refine .inr ?_
        have last := closed.resolve_left nonempty
        cases earlier with
        | nil => exact absurd rfl nonempty
        | cons next tail => rwa [List.getLast?_cons_cons]
      have apart : ∀ tail, c = '\r' → earlier ≠ '\n' :: tail := by
        rintro tail same rfl
        exact noReturn _ same rfl
      refine ⟨c :: earlier, behind, rfl, ended, ?_, split⟩
      rw [lines_cons noFeed apart, own]

/-- A closed text has as many lines as line feeds. -/
theorem length_lines_of_closed {text : List Char} (closed : IsClosed text) :
    (lines text).length = text.count '\n' := by
  induction text using lines.induct with
  | case1 => rfl
  | case2 rest ih =>
    rw [lines, List.length_cons, ih (isClosed_cons closed), List.count_cons_self]
  | case3 rest ih =>
    rw [lines, List.length_cons, ih (isClosed_cons (isClosed_cons closed)),
      List.count_cons_of_ne (by decide), List.count_cons_self]
  | case4 c rest noFeed noReturn none ih =>
    -- A text without lines is empty, so the last line is not ended.
    obtain rfl := eq_nil_of_lines_eq_nil none
    rcases closed with nothing | last
    · simp at nothing
    · exact absurd (by simpa using last) noFeed
  | case5 c rest noFeed noReturn line later some ih =>
    have count := ih (isClosed_cons closed)
    rw [some] at count
    rw [lines_cons noFeed fun others same follows => noReturn others same follows, some,
      List.count_cons_of_ne noFeed, ← count, List.length_cons, List.length_cons]

/-- A text that is not ended has one line more than what comes before that line. -/
theorem lines_ended_append {ended line : List Char} (closed : IsClosed ended)
    (whole : '\n' ∉ line) (some : line ≠ []) : lines (ended ++ line) = lines ended ++ [line] := by
  rw [lines_append closed, lines_open whole some]

/-- A text has no more lines than characters, and no line is longer than the text. -/
theorem lines_le_length (text : List Char) :
    (lines text).length ≤ text.length ∧ ∀ line ∈ lines text, line.length ≤ text.length := by
  induction text using lines.induct with
  | case1 => simp [lines]
  | case2 rest ih =>
    obtain ⟨count, lengths⟩ := ih
    simp only [lines, List.length_cons, List.mem_cons, forall_eq_or_imp, List.length_nil]
    exact ⟨by omega, by omega, fun line member => Nat.le_succ_of_le (lengths line member)⟩
  | case3 rest ih =>
    obtain ⟨count, lengths⟩ := ih
    simp only [lines, List.length_cons, List.mem_cons, forall_eq_or_imp, List.length_nil]
    refine ⟨by omega, by omega, fun line member => ?_⟩
    have bound := lengths line member
    omega
  | case4 c rest noFeed noReturn none ih =>
    rw [lines_cons noFeed fun later same follows => noReturn later same follows, none]
    simp
  | case5 c rest noFeed noReturn line later some ih =>
    -- The character joins a line that is there already.
    rw [lines_cons noFeed fun later same follows => noReturn later same follows, some]
    rw [some] at ih
    obtain ⟨count, lengths⟩ := ih
    simp only [List.length_cons, List.mem_cons, forall_eq_or_imp] at count lengths ⊢
    refine ⟨by omega, by omega, fun line member => ?_⟩
    have bound := lengths.2 line member
    omega

end Text

end TemplateLint
