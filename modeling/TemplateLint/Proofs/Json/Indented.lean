import TemplateLint.Proofs.Json.Extension

/-!
JSON values that are printed over several lines read back as the values they were printed from,
since the white space between tokens says nothing.
-/

namespace TemplateLint

namespace Json

/-- Only what comes after white space tells which fields are read. -/
theorem readFields_congr {first second : List Char} (same : skipSpace first = skipSpace second)
    (steps : Nat) : readFields steps first = readFields steps second := by
  cases steps with
  | zero => rfl
  | succ steps => simp only [readFields, same]

/-- A new line and its indentation are skipped. -/
theorem skipSpace_newLine (level : Nat) (text : List Char) :
    skipSpace (newLine level ++ text) = skipSpace text := by
  have blank : ∀ c ∈ newLine level, isSpace c = true := by
    intro c member
    rcases List.mem_cons.mp member with rfl | indent
    · rfl
    · rw [List.eq_of_mem_replicate indent]
      rfl
  rw [skipSpace, List.dropWhile_append_of_pos blank, skipSpace]

/-- A new line ends a number. -/
theorem endsNumber_newLine (level : Nat) (rest : List Char) :
    EndsNumber (newLine level ++ rest) := by
  intro c first
  obtain rfl : '\n' = c := by simpa [newLine] using first
  decide

/-- A value opens alike on one line and over several. -/
theorem head?_indented (level : Nat) (value : Json) :
    (indented level value).head? = (compact value).head? := by
  -- Lists and objects open with their bracket, with something in them or without.
  cases value with
  | bool value => cases value <;> simp [indented, compact]
  | array items => cases items <;> simp [indented, compact]
  | object fields => cases fields <;> simp [indented, compact]
  | null => simp [indented, compact]
  | integer value => simp [indented, compact]
  | fraction value => simp [indented, compact]
  | string value => simp [indented, compact]
  | valueless => simp [indented, compact]

/-- A value that is printed over several lines opens with a character of its own. -/
theorem indented_opens {value : Json} (plain : value.isPlain = true) (level : Nat) :
    ∃ c more, indented level value = c :: more ∧ isSpace c = false ∧ c ≠ ']' := by
  obtain ⟨c, more, opens, space, noBracket⟩ := compact_opens plain
  have head : (indented level value).head? = some c := by
    rw [head?_indented, opens, List.head?_cons]
  obtain ⟨others, written⟩ := List.head?_eq_some_iff.mp head
  exact ⟨c, others, written, space, noBracket⟩

mutual
/-- Reading a value printed over lines gives the value, within as many steps as characters. -/
theorem readValue_indented (value : Json) (level : Nat) (plain : value.isPlain = true)
    (steps : Nat) (enough : (indented level value).length ≤ steps) (rest : List Char)
    (ends : EndsNumber rest) :
    readValue steps (indented level value ++ rest) = some (value, rest) := by
  obtain ⟨first, more, opens, _, _⟩ := indented_opens plain level
  -- Every printed value has at least one character, so there is at least one step.
  cases steps with
  | zero => simp [opens] at enough
  | succ steps =>
    cases value with
    | null => simp [indented, readValue, skipSpace, isSpace]
    | bool value => cases value <;> simp [indented, readValue, skipSpace, isSpace]
    | integer value =>
      simp only [isPlain] at plain
      simpa only [indented] using readValue_integer plain ends
    | fraction value => simp [isPlain] at plain
    | string value =>
      simp [indented, quote, readValue, skipSpace, isSpace, readPieces_escapeAll,
        joinPieces_chars]
    | valueless => simp [isPlain] at plain
    | array items =>
      cases items with
      | nil => simp [indented, readValue, skipSpace, isSpace]
      | cons item later =>
        have closes : skipSpace (newLine level ++ ']' :: rest) = ']' :: rest :=
          skipSpace_newLine level _
        simp only [indented, List.length_cons, List.length_append] at enough
        have read := readItems_indented item later (level + 1) (by simpa [isPlain] using plain)
          steps (by omega) _ rest closes (endsNumber_newLine level _)
        have itemPlain : item.isPlain = true := by
          simp only [isPlain, arePlain, Bool.and_eq_true] at plain
          exact plain.1
        obtain ⟨c, others, itemOpens, space, noBracket⟩ := indented_opens itemPlain (level + 1)
        -- After its bracket and a new line the list goes on with its first item.
        obtain ⟨tail, listOpens⟩ : ∃ tail,
            skipSpace (indentedItems (level + 1) (item :: later) ++
              (newLine level ++ ']' :: rest)) = c :: tail := by
          have keep (text : List Char) : skipSpace (c :: text) = c :: text :=
            List.dropWhile_cons_of_neg (by simp [space])
          cases later <;>
            simp only [indentedItems, List.append_assoc, skipSpace_newLine, itemOpens,
              List.cons_append, keep, List.cons.injEq, true_and, exists_eq']
        have shape : indented level (.array (item :: later)) ++ rest =
            '[' :: (indentedItems (level + 1) (item :: later) ++
              (newLine level ++ ']' :: rest)) := by
          simp [indented]
        rw [shape, readValue_bracket listOpens noBracket, read]
        rfl
    | object fields =>
      cases fields with
      | nil => simp [indented, readValue, skipSpace, isSpace]
      | cons field later =>
        have closes : skipSpace (newLine level ++ '\x7d' :: rest) = '\x7d' :: rest :=
          skipSpace_newLine level _
        simp only [indented, List.length_cons, List.length_append] at enough
        have read := readFields_indented field later (level + 1)
          (by simpa [isPlain] using plain) steps (by omega) _ rest closes
          (endsNumber_newLine level _)
        obtain ⟨tail, listOpens⟩ : ∃ tail,
            skipSpace (indentedFields (level + 1) (field :: later) ++
              (newLine level ++ '\x7d' :: rest)) = '"' :: tail := by
          have keep (text : List Char) : skipSpace ('"' :: text) = '"' :: text := rfl
          cases later <;>
            simp only [indentedFields, quote, List.append_assoc, skipSpace_newLine,
              List.cons_append, keep, List.cons.injEq, true_and, exists_eq']
        have shape : indented level (.object (field :: later)) ++ rest =
            '\x7b' :: (indentedFields (level + 1) (field :: later) ++
              (newLine level ++ '\x7d' :: rest)) := by
          simp [indented]
        rw [shape, readValue_brace listOpens, read]
termination_by steps

/-- Reading items printed over lines gives the items, up to the bracket that closes them. -/
theorem readItems_indented (item : Json) (later : List Json) (level : Nat)
    (plain : arePlain (item :: later) = true) (steps : Nat)
    (enough : (indentedItems level (item :: later)).length + 1 ≤ steps) (after rest : List Char)
    (closes : skipSpace after = ']' :: rest) (ends : EndsNumber after) :
    readItems steps (indentedItems level (item :: later) ++ after) =
      some (item :: later, rest) := by
  cases steps with
  | zero => simp at enough
  | succ steps =>
    simp only [arePlain, Bool.and_eq_true] at plain
    -- Each item stands on a line of its own, so its new line is skipped before it is read.
    cases later with
    | nil =>
      simp only [indentedItems, List.length_append] at enough
      have read := readValue_indented item level plain.1 steps (by omega) after ends
      rw [← readValue_congr (skipSpace_newLine level _)] at read
      simpa only [indentedItems, List.append_assoc] using readItems_last read closes
    | cons next others =>
      simp only [indentedItems, List.length_append, List.length_cons] at enough
      have read := readValue_indented item level plain.1 steps (by omega)
        (',' :: (indentedItems level (next :: others) ++ after)) (endsNumber_cons (by simp) _)
      rw [← readValue_congr (skipSpace_newLine level _)] at read
      have more := readItems_indented next others level (by simpa [arePlain] using plain.2) steps
        (by omega) after rest closes ends
      simp only [indentedItems, List.append_assoc, List.cons_append, readItems_next read, more,
        Option.map_some]
termination_by steps

/-- Reading fields printed over lines gives the fields, up to the brace that closes them. -/
theorem readFields_indented (field : String × Json) (later : List (String × Json)) (level : Nat)
    (plain : arePlainFields (field :: later) = true) (steps : Nat)
    (enough : (indentedFields level (field :: later)).length + 1 ≤ steps)
    (after rest : List Char) (closes : skipSpace after = '\x7d' :: rest)
    (ends : EndsNumber after) :
    readFields steps (indentedFields level (field :: later) ++ after) =
      some (some (field :: later), rest) := by
  obtain ⟨name, value⟩ := field
  cases steps with
  | zero => simp at enough
  | succ steps =>
    simp only [arePlainFields, Bool.and_eq_true] at plain
    -- A blank stands between the colon and the value.
    have blank (text : List Char) : skipSpace (' ' :: text) = skipSpace text := rfl
    cases later with
    | nil =>
      simp only [indentedFields, List.length_append, List.length_cons] at enough
      have read := readValue_indented value level plain.1 steps (by omega) after ends
      rw [← readValue_congr (blank _)] at read
      have last := @readFields_last steps name _ _ _ _ read closes
      rw [← readFields_congr (skipSpace_newLine level _)] at last
      simpa only [indentedFields, List.append_assoc, List.cons_append] using last
    | cons next others =>
      simp only [indentedFields, List.length_append, List.length_cons] at enough
      have read := readValue_indented value level plain.1 steps (by omega)
        (',' :: (indentedFields level (next :: others) ++ after)) (endsNumber_cons (by simp) _)
      rw [← readValue_congr (blank _)] at read
      have more := readFields_indented next others level
        (by simpa [arePlainFields] using plain.2) steps (by omega) after rest closes ends
      have first := @readFields_next steps name _ _ _ read
      rw [more, ← readFields_congr (skipSpace_newLine level _)] at first
      simpa only [indentedFields, List.append_assoc, List.cons_append, Option.map_some] using
        first
termination_by steps
end

/-- A plain value reads back from its text over several lines. -/
theorem parse?_renderIndented {value : Json} (plain : value.isPlain = true) :
    parse? value.renderIndented.toList = some value := by
  have read := readValue_indented value 0 plain ((value.indented 0).length + 1) (by omega) []
    endsNumber_nil
  rw [List.append_nil] at read
  simp [renderIndented, parse?, read, skipSpace]

end Json

end TemplateLint
