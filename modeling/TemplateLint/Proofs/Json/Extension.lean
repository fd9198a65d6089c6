import TemplateLint.Proofs.Json.RoundTrip

/-!
What reading JSON text makes of a text does not depend on what follows it. So more text after a
value is left over, and a value with anything but white space after it is no document.
-/

namespace TemplateLint

namespace Json

/-- Digits that are read up to some text are read up to that text with more after it. -/
theorem readDigits_extend {text digits rest more : List Char}
    (read : readDigits text = (digits, rest)) (ends : EndsNumber more) :
    readDigits (text ++ more) = (digits, rest ++ more) := by
  obtain ⟨rfl, rfl⟩ := Prod.mk.inj read
  have all : ∀ c ∈ text.takeWhile Char.isDigit, c.isDigit = true := fun c member =>
    List.all_eq_true.mp List.all_takeWhile c member
  -- What is left of the text begins with no digit, and where nothing is left more text begins.
  have stops : ∀ c ∈ (text.dropWhile Char.isDigit ++ more).head?, c.isDigit = false := by
    have noDigit := List.head?_dropWhile_not Char.isDigit text
    cases left : text.dropWhile Char.isDigit with
    | nil => exact fun c first => (ends c first).1
    | cons other later =>
      intro c first
      obtain rfl : other = c := by simpa using first
      simpa [left] using noDigit
  have split : text ++ more =
      text.takeWhile Char.isDigit ++ (text.dropWhile Char.isDigit ++ more) := by
    rw [← List.append_assoc, List.takeWhile_append_dropWhile]
  generalize text.dropWhile Char.isDigit ++ more = after at split stops ⊢
  rw [readDigits, split, List.takeWhile_append_of_pos all, List.dropWhile_append_of_pos all]
  cases after with
  | nil => simp
  | cons c later => simp [stops c rfl]

/-- A fraction ends where it ended. -/
theorem readFraction_extend {text rest more : List Char} {decimals : Option (List Char)}
    (read : readFraction text = some (decimals, rest)) (ends : EndsNumber more) :
    readFraction (text ++ more) = some (decimals, rest ++ more) := by
  unfold readFraction at read
  split at read
  · rename_i later
    simp only [readFraction, List.cons_append]
    cases digits : readDigits later with
    | mk whole after =>
      simp only [digits] at read
      simp only [readDigits_extend digits ends]
      split at read
      · simp at read
      · rename_i some
        obtain ⟨rfl, rfl⟩ := Prod.mk.inj (Option.some.inj read)
        simp [some]
  · rename_i noPoint
    obtain ⟨rfl, rfl⟩ := Prod.mk.inj (Option.some.inj read)
    -- Without a point there is no fraction, and what follows begins with none.
    unfold readFraction
    split
    · rename_i later same
      cases text with
      | nil => exact absurd rfl (ends '.' (by simp at same; simp [same])).2.1
      | cons c others => exact absurd (congrArg (· :: others) (List.cons.inj same).1) (noPoint _)
    · rfl

/-- The digits of an exponent, after its sign. -/
def exponentDigits (negative : Bool) (text : List Char) : Option (Option Int × List Char) :=
  let (digits, after) := readDigits text
  let value : Int := Nat.ofDigitChars 10 digits 0
  if digits.isEmpty then none else some (some (if negative then -value else value), after)

/-- The digits of an exponent end where they ended. -/
theorem exponentDigits_extend {negative : Bool} {text rest more : List Char}
    {exponent : Option Int} (read : exponentDigits negative text = some (exponent, rest))
    (ends : EndsNumber more) :
    exponentDigits negative (text ++ more) = some (exponent, rest ++ more) := by
  -- The digits end where they ended before, since what follows is no digit.
  cases digits : readDigits text with
  | mk whole after =>
    simp only [exponentDigits, digits] at read
    simp only [exponentDigits, readDigits_extend digits ends]
    split at read
    · simp at read
    · rename_i some
      obtain ⟨rfl, rfl⟩ := Prod.mk.inj (Option.some.inj read)
      simp [some]

/-- An exponent ends where it ended. -/
theorem readExponent_extend {text rest more : List Char} {exponent : Option Int}
    (read : readExponent text = some (exponent, rest)) (ends : EndsNumber more) :
    readExponent (text ++ more) = some (exponent, rest ++ more) := by
  cases text with
  | nil =>
    obtain ⟨rfl, rfl⟩ : none = exponent ∧ [] = rest := by simpa [readExponent] using read
    -- What follows begins with no letter of an exponent.
    cases more with
    | nil => rfl
    | cons c later => simp [readExponent, (ends c rfl).2.2]
  | cons c later =>
    by_cases letter : c = 'e' ∨ c = 'E'
    · have negative (beyond : List Char) :
          readExponent (c :: '-' :: beyond) = exponentDigits true beyond := by
        simp only [readExponent, if_pos letter]
        rfl
      have positive (beyond : List Char) :
          readExponent (c :: '+' :: beyond) = exponentDigits false beyond := by
        simp only [readExponent, if_pos letter]
        rfl
      -- Without digits there is no exponent, and of a sign only the digits after it are read.
      cases later with
      | nil => simp [readExponent, letter, readDigits] at read
      | cons sign others =>
        by_cases minus : sign = '-'
        · subst minus
          rw [negative] at read
          rw [List.cons_append, List.cons_append, negative]
          exact exponentDigits_extend read ends
        by_cases plus : sign = '+'
        · subst plus
          rw [positive] at read
          rw [List.cons_append, List.cons_append, positive]
          exact exponentDigits_extend read ends
        have unsigned (beyond : List Char) :
            readExponent (c :: sign :: beyond) = exponentDigits false (sign :: beyond) := by
          simp only [readExponent, if_pos letter]
          split
          · rename_i same
            exact absurd (List.cons.inj same).1 minus
          · rename_i same
            exact absurd (List.cons.inj same).1 plus
          · rfl
        rw [unsigned] at read
        rw [List.cons_append, List.cons_append, unsigned]
        exact exponentDigits_extend read ends
    · have same : c :: later = rest ∧ none = exponent := by
        simpa [readExponent, letter, and_comm] using read
      obtain ⟨rfl, rfl⟩ := same
      simp [readExponent, letter]

/-- A number ends where it ended. -/
theorem readNumber_extend {negative : Bool} {text rest more : List Char} {value : Json}
    (read : readNumber negative text = some (value, rest)) (ends : EndsNumber more) :
    readNumber negative (text ++ more) = some (value, rest ++ more) := by
  cases digits : readDigits text with
  | mk whole afterWhole =>
    simp only [readNumber, digits, Option.bind_eq_bind] at read
    simp only [readNumber, readDigits_extend digits ends, Option.bind_eq_bind]
    split at read
    · simp at read
    · rename_i wellFormed
      rw [if_neg wellFormed]
      -- Whole digits, decimals and exponent are read in turn, and each of them ends where it ended
      -- before.
      simp only [Option.bind_eq_some_iff, Prod.exists] at read
      obtain ⟨decimals, afterDecimals, fraction, exponent, after, power, same⟩ := read
      obtain ⟨rfl, rfl⟩ := Prod.mk.inj (Option.some.inj same)
      simp [readFraction_extend fraction ends, readExponent_extend power ends]

/-- White space that ends before the end of a text is the same with more after the text. -/
theorem skipSpace_extend {text rest : List Char} {c : Char} (skipped : skipSpace text = c :: rest)
    (more : List Char) : skipSpace (text ++ more) = c :: (rest ++ more) := by
  rw [skipSpace] at skipped ⊢
  rw [List.dropWhile_append, skipped]
  rfl

/-- A quoted text ends where it ended. -/
theorem readPieces_extend {text rest : List Char} {pieces : List Piece}
    (read : readPieces text = some (pieces, rest)) (more : List Char) :
    readPieces (text ++ more) = some (pieces, rest ++ more) := by
  -- The recursion of the reader takes a whole escape at once, and no escape is cut by the end.
  induction text using readPieces.induct generalizing pieces rest with
  | case1 => simp [readPieces] at read
  | case2 after =>
    obtain ⟨rfl, rfl⟩ : [] = pieces ∧ after = rest := by simpa [readPieces] using read
    simp [readPieces]
  | case3 a b c d after unknown => simp [readPieces, unknown] at read
  | case4 a b c d after piece known ih =>
    simp only [readPieces, known, Option.map_eq_some_iff, Prod.exists] at read
    obtain ⟨others, left, later, same⟩ := read
    obtain ⟨rfl, rfl⟩ := Prod.mk.inj same
    simp [readPieces, known, ih later]
  | case5 c after noCode unknown =>
    rw [readPieces.eq_4 c after noCode, unknown] at read
    simp at read
  | case6 c after noCode value known ih =>
    rw [readPieces.eq_4 c after noCode, known] at read
    simp only [Option.map_eq_some_iff, Prod.exists] at read
    obtain ⟨others, left, later, same⟩ := read
    obtain ⟨rfl, rfl⟩ := Prod.mk.inj same
    -- The letter of a code is no escape of one letter.
    have stillNoCode : ∀ (x y z w : Char) (beyond : List Char),
        c = 'u' → after ++ more = x :: y :: z :: w :: beyond → False := by
      rintro x y z w beyond rfl
      simp [simpleEscape?] at known
    simp only [List.cons_append]
    rw [readPieces.eq_4 c _ stillNoCode, known, ih later]
    rfl
  | case7 c after noQuote noCode noEscape fault =>
    rw [readPieces.eq_5 c after noQuote noCode noEscape, if_pos fault] at read
    simp at read
  | case8 c after noQuote noCode noEscape plain ih =>
    rw [readPieces.eq_5 c after noQuote noCode noEscape, if_neg plain] at read
    simp only [Option.map_eq_some_iff, Prod.exists] at read
    obtain ⟨others, left, later, same⟩ := read
    obtain ⟨rfl, rfl⟩ := Prod.mk.inj same
    have noBackslash : c ≠ '\\' := fun same => plain (.inr same)
    rw [List.cons_append, readPieces.eq_5 c _ noQuote
      (fun _ _ _ _ _ same => absurd same noBackslash) (fun _ _ same => absurd same noBackslash),
      if_neg plain, ih later]
    rfl

/-- What a value is read from begins with a character that is no white space. -/
theorem opens_of_readValue {steps : Nat} {text : List Char} {result : Json × List Char}
    (read : readValue steps text = some result) : ∃ c later, skipSpace text = c :: later := by
  cases steps with
  | zero => simp [readValue] at read
  | succ steps =>
    cases opens : skipSpace text with
    | nil => simp [readValue, opens, readNumber, readDigits] at read
    | cons c later => exact ⟨c, later, rfl⟩

/-- What items are read from begins with a character that is no white space. -/
theorem opens_of_readItems {steps : Nat} {text : List Char} {result : List Json × List Char}
    (read : readItems steps text = some result) : ∃ c later, skipSpace text = c :: later := by
  cases steps with
  | zero => simp [readItems] at read
  | succ steps =>
    simp only [readItems] at read
    split at read
    · simp at read
    -- The first item is read where the items start, and no value is read from an empty text.
    · rename_i item
      exact opens_of_readValue item

/-- What fields are read from begins with a character that is no white space. -/
theorem opens_of_readFields {steps : Nat} {text : List Char}
    {result : Option (List (String × Json)) × List Char}
    (read : readFields steps text = some result) : ∃ c later, skipSpace text = c :: later := by
  cases steps with
  | zero => simp [readFields] at read
  | succ steps =>
    cases opens : skipSpace text with
    | nil => simp [readFields, opens] at read
    | cons c later => exact ⟨c, later, rfl⟩

/-- A number without a sign begins with a digit. -/
theorem isDigit_of_readNumber {c : Char} {later : List Char} {negative : Bool}
    {result : Json × List Char} (read : readNumber negative (c :: later) = some result) :
    c.isDigit = true := by
  cases digit : c.isDigit with
  | true => rfl
  | false => simp [readNumber, readDigits, digit] at read

mutual
/-- A value ends where it ended, with more after it and with more steps allowed. -/
theorem readValue_extend {steps enough : Nat} {text rest more : List Char} {value : Json}
    (read : readValue steps text = some (value, rest)) (ends : EndsNumber more)
    (allowed : steps ≤ enough) :
    readValue enough (text ++ more) = some (value, rest ++ more) := by
  cases steps with
  | zero => simp [readValue] at read
  | succ steps =>
    cases enough with
    | zero => simp at allowed
    | succ enough =>
      have within : steps ≤ enough := Nat.le_of_succ_le_succ allowed
      obtain ⟨c, later, opens⟩ := opens_of_readValue read
      simp only [readValue] at read
      split at read
      · rename_i word
        obtain ⟨rfl, rfl⟩ := Prod.mk.inj (Option.some.inj read)
        simp [readValue, skipSpace_extend word]
      · rename_i word
        obtain ⟨rfl, rfl⟩ := Prod.mk.inj (Option.some.inj read)
        simp [readValue, skipSpace_extend word]
      · rename_i word
        obtain ⟨rfl, rfl⟩ := Prod.mk.inj (Option.some.inj read)
        simp [readValue, skipSpace_extend word]
      · rename_i body quote
        split at read
        · simp at read
        · rename_i pieces after readBody
          simp only [readValue, skipSpace_extend quote, readPieces_extend readBody more]
          split at read <;> (obtain ⟨rfl, rfl⟩ := Prod.mk.inj (Option.some.inj read); rfl)
      · rename_i body bracket
        split at read
        · rename_i after close
          obtain ⟨rfl, rfl⟩ := Prod.mk.inj (Option.some.inj read)
          simp [readValue, skipSpace_extend bracket, skipSpace_extend close]
        · rename_i noClose
          simp only [Option.map_eq_some_iff, Prod.exists] at read
          obtain ⟨items, after, readBody, same⟩ := read
          obtain ⟨rfl, rfl⟩ := Prod.mk.inj same
          -- There is an item, so the list is not closed by what follows the text.
          obtain ⟨d, others, first⟩ := opens_of_readItems readBody
          have noBracket : d ≠ ']' := fun same => noClose others (by rw [first, same])
          simp [readValue, skipSpace_extend bracket, skipSpace_extend first, noBracket,
            readItems_extend readBody ends within]
      · rename_i body brace
        split at read
        · rename_i after close
          obtain ⟨rfl, rfl⟩ := Prod.mk.inj (Option.some.inj read)
          simp [readValue, skipSpace_extend brace, skipSpace_extend close]
        · rename_i noClose
          split at read
          · simp at read
          · rename_i fields after readBody
            obtain ⟨d, others, first⟩ := opens_of_readFields readBody
            have noBrace : d ≠ '\x7d' := fun same => noClose others (by rw [first, same])
            obtain ⟨rfl, rfl⟩ := Prod.mk.inj (Option.some.inj read)
            simp [readValue, skipSpace_extend brace, skipSpace_extend first, noBrace,
              readFields_extend readBody ends within]
          · rename_i after readBody
            obtain ⟨d, others, first⟩ := opens_of_readFields readBody
            have noBrace : d ≠ '\x7d' := fun same => noClose others (by rw [first, same])
            obtain ⟨rfl, rfl⟩ := Prod.mk.inj (Option.some.inj read)
            simp [readValue, skipSpace_extend brace, skipSpace_extend first, noBrace,
              readFields_extend readBody ends within]
      · rename_i digits minus
        simp [readValue, skipSpace_extend minus, readNumber_extend read ends]
      · rw [opens] at read
        have digit := isDigit_of_readNumber read
        rw [readValue_digit (skipSpace_extend opens more) digit]
        exact readNumber_extend read ends
termination_by steps

/-- Items end where they ended. -/
theorem readItems_extend {steps enough : Nat} {text rest more : List Char} {items : List Json}
    (read : readItems steps text = some (items, rest)) (ends : EndsNumber more)
    (allowed : steps ≤ enough) :
    readItems enough (text ++ more) = some (items, rest ++ more) := by
  cases steps with
  | zero => simp [readItems] at read
  | succ steps =>
    cases enough with
    | zero => simp at allowed
    | succ enough =>
      have within : steps ≤ enough := Nat.le_of_succ_le_succ allowed
      simp only [readItems] at read
      split at read
      · simp at read
      · rename_i item afterItem readItem
        have first := readValue_extend readItem ends within
        -- What follows an item tells whether there are others.
        split at read
        · rename_i others comma
          simp only [Option.map_eq_some_iff, Prod.exists] at read
          obtain ⟨found, after, readOthers, same⟩ := read
          obtain ⟨rfl, rfl⟩ := Prod.mk.inj same
          simp [readItems, first, skipSpace_extend comma, readItems_extend readOthers ends within]
        · rename_i after bracket
          obtain ⟨rfl, rfl⟩ := Prod.mk.inj (Option.some.inj read)
          simp [readItems, first, skipSpace_extend bracket]
        · simp at read
termination_by steps

/-- Fields end where they ended. -/
theorem readFields_extend {steps enough : Nat} {text rest more : List Char}
    {fields : Option (List (String × Json))} (read : readFields steps text = some (fields, rest))
    (ends : EndsNumber more) (allowed : steps ≤ enough) :
    readFields enough (text ++ more) = some (fields, rest ++ more) := by
  cases steps with
  | zero => simp [readFields] at read
  | succ steps =>
    cases enough with
    | zero => simp at allowed
    | succ enough =>
      have within : steps ≤ enough := Nat.le_of_succ_le_succ allowed
      simp only [readFields] at read
      split at read
      · rename_i keyText quote
        split at read
        · simp at read
        · rename_i pieces afterKey readKey
          have key := readPieces_extend readKey more
          split at read
          · rename_i valueText colon
            split at read
            · simp at read
            · rename_i value afterValue readIt
              have first := readValue_extend readIt ends within
              -- What follows a field tells whether there are others.
              split at read
              · rename_i others comma
                simp only [Option.map_eq_some_iff, Prod.exists] at read
                obtain ⟨found, after, readOthers, same⟩ := read
                obtain ⟨rfl, rfl⟩ := Prod.mk.inj same
                simp [readFields, skipSpace_extend quote, key, skipSpace_extend colon, first,
                  skipSpace_extend comma, readFields_extend readOthers ends within]
              · rename_i after brace
                obtain ⟨rfl, rfl⟩ := Prod.mk.inj (Option.some.inj read)
                simp [readFields, skipSpace_extend quote, key, skipSpace_extend colon, first,
                  skipSpace_extend brace]
              · simp at read
          · simp at read
      · simp at read
termination_by steps
end

/-- Only what comes after white space tells which value is read. -/
theorem readValue_congr {first second : List Char} (same : skipSpace first = skipSpace second)
    (steps : Nat) : readValue steps first = readValue steps second := by
  cases steps with
  | zero => rfl
  | succ steps => simp only [readValue, same]

/-- A value with white space before it is read as that value. -/
theorem parse?_after_space {space text : List Char} {value : Json}
    (blank : space.all isSpace = true) (read : parse? text = some value) :
    parse? (space ++ text) = some value := by
  have skipped : skipSpace (space ++ text) = skipSpace text := by
    rw [skipSpace, List.dropWhile_append_of_pos (List.all_eq_true.mp blank), skipSpace]
  simp only [parse?] at read ⊢
  split at read
  · rename_i found rest readIt
    -- The longer text is granted more steps, which changes nothing.
    have more := readValue_extend readIt endsNumber_nil
      (by simp only [List.length_append]; omega : text.length + 1 ≤ (space ++ text).length + 1)
    rw [List.append_nil, List.append_nil, ← readValue_congr skipped] at more
    rw [more]
    exact read
  · simp at read

/-- A document with anything but white space after it is no document. -/
theorem parse?_before {text more : List Char} {value : Json} (read : parse? text = some value)
    (ends : EndsNumber more) (some : skipSpace more ≠ []) : parse? (text ++ more) = none := by
  simp only [parse?] at read ⊢
  split at read
  · rename_i found rest readIt
    have again := readValue_extend readIt ends
      (by simp only [List.length_append]; omega : text.length + 1 ≤ (text ++ more).length + 1)
    rw [again]
    split at read
    · rename_i nothing
      -- What the value leaves of the text is white space, and so what follows is left over.
      have left : skipSpace (rest ++ more) = skipSpace more := by
        rw [skipSpace, List.dropWhile_append, ← skipSpace, if_pos nothing, skipSpace]
      simp [left, some]
    · simp at read
  · simp at read

/-- No document begins with a character that is neither white space nor opens a value. -/
theorem parse?_of_foreign {text later : List Char} {c : Char} (opens : skipSpace text = c :: later)
    (foreign : c.isDigit = false ∧ c ∉ ['n', 't', 'f', '"', '[', '\x7b', '-']) :
    parse? text = none := by
  obtain ⟨noDigit, others⟩ := foreign
  simp only [List.mem_cons, List.not_mem_nil, or_false, not_or] at others
  -- Each way to read a value asks for a first character that this is not.
  have read : readValue (text.length + 1) text = none := by
    simp only [readValue, opens]
    split <;> rename_i same <;> try (
      obtain ⟨rfl, _⟩ := List.cons.inj same
      simp at others)
    simp [readNumber, readDigits, noDigit]
  simp [parse?, read]

end Json

end TemplateLint
