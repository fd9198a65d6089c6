import TemplateLint.Json.Parser
import TemplateLint.Json.Printer

/-! JSON values that are printed on one line read back as the values they were printed from. -/

namespace TemplateLint

namespace Json

/-- A character between quotes is a letter behind a backslash, a code, or the character itself. -/
theorem escape_cases (c : Char) :
    (∃ letter, escape c = ['\\', letter] ∧ simpleEscape? letter = some c ∧ letter ≠ 'u' ∧
        ¬letter < ' ') ∨
      (c.toNat < 32 ∧
        escape c = ['\\', 'u', '0', '0', hexDigit (c.toNat / 16), hexDigit (c.toNat % 16)]) ∨
      (c ≠ '"' ∧ c ≠ '\\' ∧ ¬c < ' ' ∧ escape c = [c]) := by
  unfold escape
  -- The letters of the short escapes are checked one after another.
  split
  · exact .inl ⟨'"', rfl, by subst c; rfl, by decide, by decide⟩
  split
  · exact .inl ⟨'\\', rfl, by subst c; rfl, by decide, by decide⟩
  split
  · exact .inl ⟨'n', rfl, by subst c; rfl, by decide, by decide⟩
  split
  · exact .inl ⟨'r', rfl, by subst c; rfl, by decide, by decide⟩
  split
  · exact .inl ⟨'t', rfl, by subst c; rfl, by decide, by decide⟩
  split
  · exact .inl ⟨'b', rfl, by subst c; rfl, by decide, by decide⟩
  split
  · exact .inl ⟨'f', rfl, by subst c; rfl, by decide, by decide⟩
  split
  · rename_i control
    exact .inr (.inl ⟨control, rfl⟩)
  · rename_i noQuote noBackslash _ _ _ _ _ noControl
    exact .inr (.inr ⟨noQuote, noBackslash, noControl, rfl⟩)

/-- Reading one escaped character gives that character and goes on after it. -/
theorem readPieces_escape (c : Char) (rest : List Char) :
    readPieces (escape c ++ rest) =
      (readPieces rest).map fun (pieces, after) => (.char c :: pieces, after) := by
  rcases escape_cases c with ⟨letter, written, means, noCode, _⟩ | ⟨small, written⟩ |
    ⟨noQuote, noBackslash, noControl, written⟩
  · rw [written, List.cons_append, List.singleton_append, readPieces]
    · simp [means]
    · intro _ _ _ _ _ same; exact absurd same noCode
  · have piece : pieceOfHex? '0' '0' (hexDigit (c.toNat / 16)) (hexDigit (c.toNat % 16)) =
        some (.char c) := by
      -- Only thirty-two characters are written this way, and each is looked up.
      have all : ∀ n < 32, pieceOfHex? '0' '0' (hexDigit (n / 16)) (hexDigit (n % 16)) =
          some (.char (Char.ofNat n)) := by decide
      rw [all c.toNat small, Char.ofNat_toNat]
    rw [written]
    simp [readPieces, piece]
  · rw [written, List.singleton_append, readPieces]
    · simp [noControl, noBackslash]
    · exact noQuote
    · intro _ _ _ _ _ same; exact absurd same noBackslash
    · intro _ _ same; exact absurd same noBackslash

/-- Reading an escaped text gives its characters, up to the quote that closes it. -/
theorem readPieces_escapeAll (text rest : List Char) :
    readPieces (escapeAll text ++ '"' :: rest) = some (text.map .char, rest) := by
  -- The induction is on the text: each escape is read before what follows it.
  induction text with
  | nil => simp [escapeAll, readPieces]
  | cons c text ih =>
    rw [escapeAll, List.append_assoc, readPieces_escape, ih]
    rfl

/-- Characters that are no surrogates are joined as they stand. -/
theorem joinPieces_chars (text : List Char) : joinPieces? (text.map .char) = some text := by
  induction text with
  | nil => rfl
  | cons c text ih => simp [joinPieces?, ih]

/-- A text that follows a number and does not belong to it. -/
def EndsNumber (rest : List Char) : Prop :=
  ∀ c ∈ rest.head?, c.isDigit = false ∧ c ≠ '.' ∧ c ≠ 'e' ∧ c ≠ 'E'

/-- Nothing at all ends a number. -/
theorem endsNumber_nil : EndsNumber [] := by
  simp [EndsNumber]

/-- A number has no leading zero, unless it is zero. -/
theorem length_toDigits_of_head_zero {n : Nat} (zero : (Nat.toDigits 10 n).head? = some '0') :
    (Nat.toDigits 10 n).length = 1 := by
  -- The first digit of a longer number is the first digit of its tenth part.
  induction n using Nat.strongRecOn with
  | ind n ih =>
    rcases Nat.lt_or_ge n 10 with short | long
    · simp [Nat.toDigits_of_lt_base short]
    · exfalso
      have split := Nat.toDigits_of_base_le (by decide : 1 < 10) long
      have nonempty : Nat.toDigits 10 (n / 10) ≠ [] := Nat.toDigits_ne_nil
      have headTenth : (Nat.toDigits 10 (n / 10)).head? = some '0' := by
        rw [split] at zero
        cases tenth : Nat.toDigits 10 (n / 10) with
        | nil => exact absurd tenth nonempty
        | cons first later => simpa [tenth] using zero
      have single := ih (n / 10) (by omega) headTenth
      have tenthShort : n / 10 < 10 := by
        have bound := (Nat.length_toDigits_le_iff (n := n / 10) (k := 1)
          (by decide : 1 < 10) (by decide)).mp (by omega)
        simpa using bound
      rw [Nat.toDigits_of_lt_base tenthShort] at headTenth
      have positive : 0 < n / 10 := by omega
      have distinct : ∀ d < 10, 0 < d → Nat.digitChar d ≠ '0' := by decide
      exact distinct (n / 10) tenthShort positive (by simpa using headTenth)

/-- Digits are read up to the text that ends them. -/
theorem readDigits_append {digits rest : List Char} (all : ∀ c ∈ digits, c.isDigit = true)
    (ends : EndsNumber rest) : readDigits (digits ++ rest) = (digits, rest) := by
  -- What ends the digits is either the end of the text or no digit.
  have noMore : rest.takeWhile Char.isDigit = [] ∧ rest.dropWhile Char.isDigit = rest := by
    cases rest with
    | nil => exact ⟨rfl, rfl⟩
    | cons c rest =>
      have head := (ends c rfl).1
      simp [head]
  simp [readDigits, List.takeWhile_append_of_pos all, List.dropWhile_append_of_pos all, noMore]

/-- The decimal digits of a number, after its sign, read back as the number. -/
theorem readNumber_toDigits (negative : Bool) (n : Nat) {rest : List Char}
    (ends : EndsNumber rest)
    (word : isWord (if negative then -(n : Int) else n) = true)
    (signed : negative = true → n ≠ 0) :
    readNumber negative (Nat.toDigits 10 n ++ rest) =
      some (.integer (if negative then -(n : Int) else n), rest) := by
  have digits : ∀ c ∈ Nat.toDigits 10 n, c.isDigit = true := fun c member =>
    Nat.isDigit_of_mem_toDigits (by decide) (by decide) member
  have nonempty : (Nat.toDigits 10 n).isEmpty = false := by simp
  have noLeadingZero : ((Nat.toDigits 10 n).head? == some '0' &&
      decide (1 < (Nat.toDigits 10 n).length)) = false := by
    by_cases zero : (Nat.toDigits 10 n).head? = some '0'
    · simp [length_toDigits_of_head_zero zero]
    · simp [zero]
  -- What follows the digits starts neither a fraction nor an exponent.
  have noFraction : readFraction rest = some (none, rest) := by
    cases rest with
    | nil => rfl
    | cons c rest =>
      have head := (ends c rfl).2.1
      unfold readFraction
      split
      · rename_i same
        exact absurd (List.cons.inj same).1 head
      · rfl
  have noExponent : readExponent rest = some (none, rest) := by
    cases rest with
    | nil => rfl
    | cons c rest => simp [readExponent, (ends c rfl).2.2]
  have nonzero : (!(negative && n == 0)) = true := by
    cases negative with
    | false => rfl
    | true => simpa using signed rfl
  simp only [readNumber, readDigits_append digits ends, nonempty, noLeadingZero, Bool.or_false,
    Bool.false_eq_true, if_false, noFraction, noExponent, Option.bind_eq_bind, Option.bind_some]
  simp only [ofNumber, Option.getD_none, List.append_nil, Option.isNone_none, Bool.true_and,
    Nat.ofDigitChars_ten_toDigits, word, nonzero, if_true]

mutual
/-- The value is made of what reading gives back as it is: its numbers are integers of word size. -/
def isPlain : Json → Bool
  | .integer value => isWord value
  | .fraction _ => false
  | .valueless => false
  | .array items => arePlain items
  | .object fields => arePlainFields fields
  | _ => true

/-- Every item is plain. -/
def arePlain : List Json → Bool
  | [] => true
  | item :: later => isPlain item && arePlain later

/-- Every field's value is plain. -/
def arePlainFields : List (String × Json) → Bool
  | [] => true
  | (_, value) :: later => isPlain value && arePlainFields later
end

/-- A comma or a closing bracket ends a number. -/
theorem endsNumber_cons {c : Char} (mark : c = ',' ∨ c = ']' ∨ c = '\x7d') (rest : List Char) :
    EndsNumber (c :: rest) := by
  intro first same
  simp only [List.head?_cons, Option.mem_some_iff] at same
  subst same
  rcases mark with same | same | same <;> subst same <;> decide

/-- A digit is no white space and closes no list. -/
theorem digit_opens {c : Char} (digit : c.isDigit = true) : isSpace c = false ∧ c ≠ ']' := by
  constructor
  · -- There are four characters of white space, none of them a digit.
    by_cases same : isSpace c = true
    · simp only [isSpace, Bool.or_eq_true, beq_iff_eq] at same
      rcases same with ((same | same) | same) | same <;> subst same <;> exact absurd digit (by decide)
    · simpa using same
  · intro same
    subst same
    exact absurd digit (by decide)

/-- What begins with a digit is read as a number. -/
theorem readValue_digit {steps : Nat} {text later : List Char} {c : Char}
    (opens : skipSpace text = c :: later) (digit : c.isDigit = true) :
    readValue (steps + 1) text = readNumber false (c :: later) := by
  simp only [readValue, opens]
  -- A digit is none of the characters that open another kind of value.
  split <;> rename_i same <;> try (
    obtain ⟨rfl, _⟩ := List.cons.inj same
    exact absurd digit (by decide))
  rfl

/-- An integer of word size reads back. -/
theorem readValue_integer {value : Int} (word : isWord value = true) {steps : Nat}
    {rest : List Char} (ends : EndsNumber rest) :
    readValue (steps + 1) (renderInteger value ++ rest) = some (.integer value, rest) := by
  -- A number that is not negative starts with a digit, and a negative one with its sign, of which
  -- the other readers know nothing.
  cases value with
  | ofNat n =>
    have read := readNumber_toDigits false n ends word (by simp)
    cases digits : Nat.toDigits 10 n with
    | nil => exact absurd digits Nat.toDigits_ne_nil
    | cons d later =>
      have digit : d.isDigit = true := by
        apply Nat.isDigit_of_mem_toDigits (b := 10) (n := n) (by decide) (by decide)
        simp [digits]
      have opens : skipSpace (d :: (later ++ rest)) = d :: (later ++ rest) := by
        simp [skipSpace, (digit_opens digit).1]
      rw [digits, List.cons_append] at read
      rw [renderInteger, digits, List.cons_append, readValue_digit opens digit]
      exact read
  | negSucc n =>
    have read := readNumber_toDigits true (n + 1) ends
      (by simpa [Int.negSucc_eq] using word) (by simp)
    simpa [renderInteger, readValue, skipSpace, isSpace, Int.negSucc_eq] using read

/-- A value that is printed on one line opens with a character of its own. -/
theorem compact_opens {value : Json} (plain : value.isPlain = true) :
    ∃ c more, compact value = c :: more ∧ isSpace c = false ∧ c ≠ ']' := by
  cases value with
  | null => exact ⟨'n', ['u', 'l', 'l'], by simp [compact], rfl, by decide⟩
  | bool value =>
    cases value with
    | true => exact ⟨'t', ['r', 'u', 'e'], by simp [compact], rfl, by decide⟩
    | false => exact ⟨'f', ['a', 'l', 's', 'e'], by simp [compact], rfl, by decide⟩
  | integer value =>
    cases value with
    | ofNat n =>
      -- A number is printed with one digit at least.
      cases digits : Nat.toDigits 10 n with
      | nil => exact absurd digits Nat.toDigits_ne_nil
      | cons d later =>
        have digit : d.isDigit = true := by
          apply Nat.isDigit_of_mem_toDigits (b := 10) (n := n) (by decide) (by decide)
          simp [digits]
        exact ⟨d, later, by simp [compact, renderInteger, digits], digit_opens digit⟩
    | negSucc n =>
      exact ⟨'-', Nat.toDigits 10 (n + 1), by simp [compact, renderInteger], rfl, by decide⟩
  | fraction value => simp [isPlain] at plain
  | string value =>
    exact ⟨'"', escapeAll value.toList ++ ['"'], by simp [compact, quote], rfl, by decide⟩
  | valueless => simp [isPlain] at plain
  | array items =>
    exact ⟨'[', compactItems items ++ [']'], by simp [compact], rfl, by decide⟩
  | object fields =>
    exact ⟨'\x7b', compactFields fields ++ ['\x7d'], by simp [compact], rfl, by decide⟩

/-- A bracket that does not close at once opens a list of items. -/
theorem readValue_bracket {steps : Nat} {c : Char} {text more : List Char}
    (opens : skipSpace text = c :: more) (noBracket : c ≠ ']') :
    readValue (steps + 1) ('[' :: text) =
      (readItems steps text).map fun (items, after) => (.array items, after) := by
  have bracket : skipSpace ('[' :: text) = '[' :: text := rfl
  simp only [readValue, bracket, opens]
  split
  · rename_i same
    exact absurd (List.cons.inj same).1 noBracket
  · rfl

/-- A brace with a quote after it opens a list of fields. -/
theorem readValue_brace {steps : Nat} {text more : List Char}
    (opens : skipSpace text = '"' :: more) :
    readValue (steps + 1) ('\x7b' :: text) =
      match readFields steps text with
      | none => none
      | some (some fields, after) => some (.object fields, after)
      | some (none, after) => some (.valueless, after) := by
  have brace : skipSpace ('\x7b' :: text) = '\x7b' :: text := rfl
  simp only [readValue, brace, opens]
  rfl

/-- A printed item with no other after it is the last of its list. -/
theorem readItems_last {steps : Nat} {text after rest : List Char} {item : Json}
    (read : readValue steps text = some (item, after)) (closes : skipSpace after = ']' :: rest) :
    readItems (steps + 1) text = some ([item], rest) := by
  simp only [readItems, read, closes]

/-- A printed item with a comma after it stands before the others of its list. -/
theorem readItems_next {steps : Nat} {text more : List Char} {item : Json}
    (read : readValue steps text = some (item, ',' :: more)) :
    readItems (steps + 1) text =
      (readItems steps more).map fun (items, after) => (item :: items, after) := by
  have comma : skipSpace (',' :: more) = ',' :: more := rfl
  simp only [readItems, read, comma]

/-- A printed field with no other after it is the last of its object. -/
theorem readFields_last {steps : Nat} {name : String} {text after rest : List Char} {value : Json}
    (read : readValue steps text = some (value, after))
    (closes : skipSpace after = '\x7d' :: rest) :
    readFields (steps + 1) (quote name ++ ':' :: text) = some (some [(name, value)], rest) := by
  -- No white space is printed before the colon, so none is skipped there.
  have open_ : quote name ++ ':' :: text = '"' :: (escapeAll name.toList ++ '"' :: ':' :: text) := by
    simp [quote]
  have quoted (text : List Char) : skipSpace ('"' :: text) = '"' :: text := rfl
  have colon : skipSpace (':' :: text) = ':' :: text := rfl
  simp only [open_, readFields, quoted, readPieces_escapeAll, colon, read, closes,
    joinPieces_chars, Option.map_some, String.ofList_toList]

/-- A printed field with a comma after it stands before the others of its object. -/
theorem readFields_next {steps : Nat} {name : String} {text more : List Char} {value : Json}
    (read : readValue steps text = some (value, ',' :: more)) :
    readFields (steps + 1) (quote name ++ ':' :: text) =
      (readFields steps more).map fun (fields, after) =>
        (fields.map ((name, value) :: ·), after) := by
  -- The name is quoted, so that the reader of fields meets a quotation mark, and behind the value a
  -- comma.
  have open_ : quote name ++ ':' :: text = '"' :: (escapeAll name.toList ++ '"' :: ':' :: text) := by
    simp [quote]
  have quoted (text : List Char) : skipSpace ('"' :: text) = '"' :: text := rfl
  have colon : skipSpace (':' :: text) = ':' :: text := rfl
  have comma : skipSpace (',' :: more) = ',' :: more := rfl
  simp only [open_, readFields, quoted, readPieces_escapeAll, colon, read, comma,
    joinPieces_chars, Option.map_some, String.ofList_toList, Option.bind_some]

mutual
/-- Reading a printed value, within as many steps as it has characters, gives the value. -/
theorem readValue_compact (value : Json) (plain : value.isPlain = true) (steps : Nat)
    (enough : (compact value).length ≤ steps) (rest : List Char) (ends : EndsNumber rest) :
    readValue steps (compact value ++ rest) = some (value, rest) := by
  obtain ⟨first, more, opens, _, _⟩ := compact_opens plain
  -- Every printed value has at least one character, so there is at least one step.
  cases steps with
  | zero => simp [opens] at enough
  | succ steps =>
    cases value with
    | null => simp [compact, readValue, skipSpace, isSpace]
    | bool value => cases value <;> simp [compact, readValue, skipSpace, isSpace]
    | integer value =>
      simp only [isPlain] at plain
      simpa only [compact] using readValue_integer plain ends
    | fraction value => simp [isPlain] at plain
    | string value =>
      simp [compact, quote, readValue, skipSpace, isSpace, readPieces_escapeAll, joinPieces_chars]
    | valueless => simp [isPlain] at plain
    | array items =>
      cases items with
      | nil => simp [compact, compactItems, readValue, skipSpace, isSpace]
      | cons item later =>
        have read := readItems_compact item later (by simpa [isPlain] using plain) steps
          (by simpa [compact] using enough) rest
        have itemPlain : item.isPlain = true := by
          simp only [isPlain, arePlain, Bool.and_eq_true] at plain
          exact plain.1
        obtain ⟨c, others, itemOpens, space, noBracket⟩ := compact_opens itemPlain
        -- The list is not empty, so what follows its bracket does not close it.
        obtain ⟨tail, listOpens⟩ : ∃ tail, compactItems (item :: later) = c :: tail := by
          cases later <;> simp [compactItems, itemOpens]
        rw [listOpens, List.cons_append] at read
        have shape : compact (.array (item :: later)) ++ rest =
            '[' :: c :: (tail ++ ']' :: rest) := by
          simp [compact, listOpens]
        rw [shape, readValue_bracket (List.dropWhile_cons_of_neg (by simp [space])) noBracket, read]
        rfl
    | object fields =>
      cases fields with
      | nil => simp [compact, compactFields, readValue, skipSpace, isSpace]
      | cons field later =>
        have read := readFields_compact field later (by simpa [isPlain] using plain) steps
          (by simpa [compact] using enough) rest
        obtain ⟨tail, listOpens⟩ : ∃ tail, compactFields (field :: later) = '"' :: tail := by
          cases later <;> simp [compactFields, quote]
        rw [listOpens, List.cons_append] at read
        have shape : compact (.object (field :: later)) ++ rest =
            '\x7b' :: '"' :: (tail ++ '\x7d' :: rest) := by
          simp [compact, listOpens]
        rw [shape, readValue_brace rfl, read]
termination_by steps

/-- Reading printed items gives the items, up to the bracket that closes them. -/
theorem readItems_compact (item : Json) (later : List Json)
    (plain : arePlain (item :: later) = true) (steps : Nat)
    (enough : (compactItems (item :: later)).length + 1 ≤ steps) (rest : List Char) :
    readItems steps (compactItems (item :: later) ++ ']' :: rest) = some (item :: later, rest) := by
  cases steps with
  | zero => simp at enough
  | succ steps =>
    simp only [arePlain, Bool.and_eq_true] at plain
    -- The last item is followed by a bracket, any other by a comma; both end a number.
    cases later with
    | nil =>
      have read := readValue_compact item plain.1 steps (by simpa [compactItems] using enough)
        (']' :: rest) (endsNumber_cons (by simp) rest)
      simpa only [compactItems] using readItems_last read rfl
    | cons next others =>
      simp only [compactItems, List.length_append, List.length_cons] at enough
      have read := readValue_compact item plain.1 steps (by omega)
        (',' :: (compactItems (next :: others) ++ ']' :: rest)) (endsNumber_cons (by simp) _)
      have more := readItems_compact next others (by simpa [arePlain] using plain.2) steps
        (by omega) rest
      simp only [compactItems, List.append_assoc, List.cons_append, readItems_next read, more,
        Option.map_some]
termination_by steps

/-- Reading printed fields gives the fields, up to the brace that closes them. -/
theorem readFields_compact (field : String × Json) (later : List (String × Json))
    (plain : arePlainFields (field :: later) = true) (steps : Nat)
    (enough : (compactFields (field :: later)).length + 1 ≤ steps) (rest : List Char) :
    readFields steps (compactFields (field :: later) ++ '\x7d' :: rest) =
      some (some (field :: later), rest) := by
  obtain ⟨name, value⟩ := field
  cases steps with
  | zero => simp at enough
  | succ steps =>
    simp only [arePlainFields, Bool.and_eq_true] at plain
    -- As with items, the brace or the comma after a value ends a number.
    cases later with
    | nil =>
      simp only [compactFields, List.length_append, List.length_cons] at enough
      have read := readValue_compact value plain.1 steps (by omega) ('\x7d' :: rest)
        (endsNumber_cons (by simp) rest)
      simpa only [compactFields, List.append_assoc, List.cons_append] using
        readFields_last read rfl
    | cons next others =>
      simp only [compactFields, List.length_append, List.length_cons] at enough
      have read := readValue_compact value plain.1 steps (by omega)
        (',' :: (compactFields (next :: others) ++ '\x7d' :: rest)) (endsNumber_cons (by simp) _)
      have more := readFields_compact next others (by simpa [arePlainFields] using plain.2) steps
        (by omega) rest
      simp only [compactFields, List.append_assoc, List.cons_append, readFields_next read, more,
        Option.map_some]
termination_by steps
end

/-- A plain value reads back from its text on one line. -/
theorem parse?_compact {value : Json} (plain : value.isPlain = true) :
    parse? value.compact = some value := by
  have read := readValue_compact value plain (value.compact.length + 1) (by omega) []
    endsNumber_nil
  rw [List.append_nil] at read
  simp [parse?, read, skipSpace]

/-- An escaped character is written without control characters. -/
theorem escape_printable {c d : Char} (member : d ∈ escape c) : ¬d < ' ' := by
  rcases escape_cases c with ⟨letter, written, _, _, printable⟩ | ⟨small, written⟩ |
    ⟨_, _, printable, written⟩
  · simp only [written, List.mem_cons, List.not_mem_nil, or_false] at member
    rcases member with same | same
    · subst same; decide
    · rw [same]; exact printable
  · -- The two digits of a control character are looked up.
    have digits : ∀ n < 32, ¬hexDigit (n / 16) < ' ' ∧ ¬hexDigit (n % 16) < ' ' := by decide
    simp only [written, List.mem_cons, List.not_mem_nil, or_false] at member
    rcases member with same | same | same | same | same | same
    · subst same; decide
    · subst same; decide
    · subst same; decide
    · subst same; decide
    · rw [same]; exact (digits c.toNat small).1
    · rw [same]; exact (digits c.toNat small).2
  · rw [written] at member
    rw [List.mem_singleton.mp member]
    exact printable

/-- Characters are escaped without control characters. -/
theorem escapeAll_printable {text : List Char} {d : Char} (member : d ∈ escapeAll text) :
    ¬d < ' ' := by
  induction text with
  | nil => simp [escapeAll] at member
  | cons c later ih =>
    rcases List.mem_append.mp member with head | tail
    · exact escape_printable head
    · exact ih tail

/-- A quoted text is written without control characters. -/
theorem quote_printable {text : String} {d : Char} (member : d ∈ quote text) : ¬d < ' ' := by
  simp only [quote, List.mem_cons, List.mem_append, List.not_mem_nil, or_false] at member
  rcases member with (same | inside) | same
  · subst same; decide
  · exact escapeAll_printable inside
  · subst same; decide

/-- The digits of a number are no control characters. -/
theorem toDigits_printable {n : Nat} {d : Char} (member : d ∈ Nat.toDigits 10 n) : ¬d < ' ' := by
  intro control
  have digit := Nat.isDigit_of_mem_toDigits (by decide) (by decide) member
  simp only [Char.isDigit, Bool.and_eq_true, decide_eq_true_eq] at digit
  -- Digits begin at 48, and the blank is 32.
  have low : 48 ≤ d.toNat := digit.1
  have high : d.toNat < 32 := control
  omega

/-- An integer is written without control characters. -/
theorem renderInteger_printable {value : Int} {d : Char} (member : d ∈ renderInteger value) :
    ¬d < ' ' := by
  cases value with
  | ofNat n => exact toDigits_printable member
  | negSucc n =>
    rcases List.mem_cons.mp member with same | inside
    · subst same; decide
    · exact toDigits_printable inside

/-- A word is written without control characters when each of its characters is looked at. -/
theorem word_printable {word : List Char}
    (checked : word.all (fun d => !decide (d < ' ')) = true) : ∀ d ∈ word, ¬d < ' ' := by
  intro d member
  simpa using List.all_eq_true.mp checked d member

mutual
/-- A plain value on one line is written without control characters, so without line ends. -/
theorem compact_printable (value : Json) (plain : value.isPlain = true) :
    ∀ d ∈ compact value, ¬d < ' ' := by
  -- Words and punctuation are closed terms; texts and numbers have their own lemmas.
  cases value with
  | null => exact word_printable rfl
  | bool value => cases value <;> exact word_printable rfl
  | integer value => exact fun d member => renderInteger_printable member
  | fraction value => simp [isPlain] at plain
  | string value => exact fun d member => quote_printable member
  | valueless => simp [isPlain] at plain
  | array items =>
    intro d member
    simp only [compact, List.mem_cons, List.mem_append, List.not_mem_nil, or_false] at member
    rcases member with (same | inside) | same
    · subst same; decide
    · exact compactItems_printable items (by simpa [isPlain] using plain) d inside
    · subst same; decide
  | object fields =>
    intro d member
    simp only [compact, List.mem_cons, List.mem_append, List.not_mem_nil, or_false] at member
    rcases member with (same | inside) | same
    · subst same; decide
    · exact compactFields_printable fields (by simpa [isPlain] using plain) d inside
    · subst same; decide

/-- Plain items are written without control characters. -/
theorem compactItems_printable (items : List Json) (plain : arePlain items = true) :
    ∀ d ∈ compactItems items, ¬d < ' ' := by
  -- A list is written in one of three ways: without items, with one, and with a comma behind the
  -- first of several.
  match items with
  | [] => simp [compactItems]
  | [item] =>
    simp only [arePlain, Bool.and_true] at plain
    simpa only [compactItems] using compact_printable item plain
  | item :: next :: later =>
    intro d member
    rw [arePlain, Bool.and_eq_true] at plain
    simp only [compactItems, List.mem_append, List.mem_cons] at member
    rcases member with inside | same | inside
    · exact compact_printable item plain.1 d inside
    · subst same; decide
    · exact compactItems_printable (next :: later) plain.2 d inside

/-- Plain fields are written without control characters. -/
theorem compactFields_printable (fields : List (String × Json))
    (plain : arePlainFields fields = true) : ∀ d ∈ compactFields fields, ¬d < ' ' := by
  -- Fields are written as items are, each of them with its name and a colon before the value.
  match fields with
  | [] => simp [compactFields]
  | [(name, value)] =>
    intro d member
    simp only [arePlainFields, Bool.and_true] at plain
    simp only [compactFields, List.mem_append, List.mem_cons] at member
    rcases member with inside | same | inside
    · exact quote_printable inside
    · subst same; decide
    · exact compact_printable value plain d inside
  | (name, value) :: next :: later =>
    intro d member
    rw [arePlainFields, Bool.and_eq_true] at plain
    simp only [compactFields, List.mem_append, List.mem_cons] at member
    rcases member with (inside | same | inside) | same | inside
    · exact quote_printable inside
    · subst same; decide
    · exact compact_printable value plain.1 d inside
    · subst same; decide
    · exact compactFields_printable (next :: later) plain.2 d inside
end

end Json

end TemplateLint
