import Mathlib.Data.List.Basic
import TemplateLint.Proofs.Text.Lines

/-! The line around a part of a text that takes in no line end. -/

namespace TemplateLint

namespace Text

/-- A line of a text begins at a place: it is the first one behind lines that are ended. -/
def LineAt (text : List Char) (start : Nat) (line : List Char) : Prop :=
  ∃ front rest, text = front ++ rest ∧ IsClosed front ∧ front.length = start ∧
    (lines rest).head? = some line

/-- A line that begins at some place is one of the lines. -/
theorem LineAt.mem {text line : List Char} {start : Nat} (stands : LineAt text start line) :
    line ∈ lines text := by
  obtain ⟨front, rest, rfl, closed, _, first⟩ := stands
  rw [lines_append closed]
  exact List.mem_append_right _ (List.mem_of_mem_head? first)

/-- A part of a text takes in a line end: a line feed, or a carriage return before one. -/
def TakesLineEnd (own after : List Char) : Prop :=
  '\n' ∈ own ∨ own.getLast? = some '\r' ∧ after.head? = some '\n'

/-- Before a carriage return and a line feed a line ends, whatever its last character is. -/
theorem lines_returned {line : List Char} (whole : '\n' ∉ line) (rest : List Char) :
    lines (line ++ '\r' :: '\n' :: rest) = line :: lines rest := by
  induction line with
  | nil => simp [lines]
  | cons c line ih =>
    simp only [List.mem_cons, not_or] at whole
    -- A carriage return of the line itself is followed by no line feed, or the line would have one.
    have noReturn : ∀ later, c = '\r' → line ++ '\r' :: '\n' :: rest ≠ '\n' :: later := by
      rintro later rfl follows
      cases line with
      | nil => simp at follows
      | cons next others =>
        obtain ⟨rfl, _⟩ := List.cons.inj follows
        exact whole.2 List.mem_cons_self
    rw [List.cons_append, lines_cons (Ne.symm whole.1) noReturn, ih whole.2]

/-- A text that goes on without a line end has its first line end further on, or none. -/
theorem exists_closing {own after : List Char} (nonempty : own ≠ []) (whole : '\n' ∉ own)
    (kept : own.getLast? = some '\r' → after.head? ≠ some '\n') :
    ∃ closing, (lines (own ++ after)).head? = some (own ++ closing) ∧
      (closing.head? = after.head? ∨ closing = [] ∧
        (after.head? = some '\n' ∨ after.head? = some '\r')) := by
  -- The line goes on to the next line feed, if there is one, and leaves out a carriage return right
  -- before it.
  by_cases feeds : '\n' ∈ after
  · obtain ⟨part, later, rfl, open_⟩ := List.eq_append_cons_of_mem feeds
    have wholePart : '\n' ∉ own ++ part := by simp [whole, open_]
    by_cases returned : part.getLast? = some '\r'
    · obtain ⟨closing, rfl⟩ := List.getLast?_eq_some_iff.mp returned
      have wholeClosing : '\n' ∉ own ++ closing := fun inside => wholePart (by
        rw [← List.append_assoc]
        exact List.mem_append_left _ inside)
      refine ⟨closing, ?_, ?_⟩
      · have split : own ++ (closing ++ ['\r'] ++ '\n' :: later) =
            own ++ closing ++ '\r' :: '\n' :: later := by simp
        rw [split, lines_returned wholeClosing]
        rfl
      · cases closing with
        | nil => exact .inr ⟨rfl, .inr rfl⟩
        | cons c rest => exact .inl rfl
    -- Without such a return behind it, the last character is one of the part or, if that is empty,
    -- one of the text itself.
    · have last : (own ++ part).getLast? ≠ some '\r' := by
        cases part with
        | nil =>
          rw [List.append_nil]
          exact fun ends => kept ends rfl
        | cons c rest =>
          rw [List.getLast?_append_of_ne_nil _ (List.cons_ne_nil c rest)]
          exact returned
      refine ⟨part, ?_, ?_⟩
      · rw [← List.append_assoc, lines_line wholePart last]
        rfl
      · cases part with
        | nil => exact .inr ⟨rfl, .inl rfl⟩
        | cons c rest => exact .inl rfl
  · refine ⟨after, ?_, .inl rfl⟩
    rw [lines_open (by simp [whole, feeds]) (by simp [nonempty])]
    rfl

/--
A part of a text that takes in no line end stands in one line. Beside it the line has the same
characters as the text, or it begins or ends there.
-/
theorem exists_line_around (before : List Char) {own after : List Char} (nonempty : own ≠ [])
    (within : ¬TakesLineEnd own after) :
    ∃ opening closing start, LineAt (before ++ (own ++ after)) start (opening ++ (own ++ closing)) ∧
      start + opening.length = before.length ∧
      (opening.getLast? = before.getLast? ∨ opening = [] ∧
        (before.getLast? = none ∨ before.getLast? = some '\n')) ∧
      (closing.head? = after.head? ∨ closing = [] ∧
        (after.head? = some '\n' ∨ after.head? = some '\r')) := by
  simp only [TakesLineEnd, not_or, not_and] at within
  obtain ⟨whole, kept⟩ := within
  obtain ⟨ended, closed, split⟩ := exists_closed before
  -- The line begins behind the last line feed before the part.
  have noFeed := not_mem_openLine before
  generalize openLine before = opening at split noFeed
  subst split
  have keptFar : (opening ++ own).getLast? = some '\r' → after.head? ≠ some '\n' := by
    rw [List.getLast?_append_of_ne_nil _ nonempty]
    exact kept
  obtain ⟨closing, first, seen⟩ :=
    exists_closing (by simp [nonempty]) (by simp [noFeed, whole]) keptFar
  refine ⟨opening, closing, ended.length, ⟨ended, opening ++ own ++ after, ?_, closed, rfl, ?_⟩,
    ?_, ?_, seen⟩
  · simp
  · rw [first, List.append_assoc]
  · rw [List.length_append]
  · cases opening with
    | nil =>
      rw [List.append_nil]
      exact .inr ⟨rfl, closed.imp (fun empty => by simp [empty]) id⟩
    | cons c rest =>
      rw [List.getLast?_append_of_ne_nil _ (List.cons_ne_nil c rest)]
      exact .inl rfl

end Text

end TemplateLint
