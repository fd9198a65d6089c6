import Mathlib.Algebra.GroupWithZero.Nat
import TemplateLint.Calendar.Date

/-! Dates are placed in the right year and month, and read back from their text. -/

namespace TemplateLint

namespace Calendar

/-- A year has a day more when it is a leap year. -/
theorem daysBefore_succ (year : Int) :
    daysBefore (year + 1) = daysBefore year + (monthLengths (isLeap year)).sum := by
  -- Each of the three quotients grows exactly where its divisor divides the year.
  have lengths : ((monthLengths (isLeap year)).sum : Int) = if isLeap year then 366 else 365 := by
    cases isLeap year <;> rfl
  rw [lengths]
  by_cases leap : isLeap year = true
  · rw [if_pos leap]
    simp only [isLeap, Bool.and_eq_true, Bool.or_eq_true, beq_iff_eq, bne_iff_ne] at leap
    unfold daysBefore
    omega
  · rw [if_neg leap]
    simp only [isLeap, Bool.and_eq_true, Bool.or_eq_true, beq_iff_eq, bne_iff_ne] at leap
    unfold daysBefore
    omega

/-- The year of a day begins no later than the day, and the next year begins after it. -/
theorem yearOf_spec (day : Int) :
    daysBefore (yearOf day) ≤ day ∧ day < daysBefore (yearOf day + 1) := by
  -- The guess is one year off at most, which the two comparisons of the search mend.
  have low : 146097 * (day * 400 / 146097) ≤ day * 400 := Int.mul_ediv_self_le (by decide)
  have high : day * 400 < 146097 * (day * 400 / 146097) + 146097 :=
    Int.lt_mul_ediv_self_add (by decide)
  simp only [yearOf]
  generalize day * 400 / 146097 = guess at low high ⊢
  split
  · rename_i early
    refine ⟨?_, by simpa using early⟩
    unfold daysBefore at early ⊢
    omega
  · rename_i notEarly
    split
    · rename_i inside
      exact ⟨by omega, inside⟩
    · rename_i late
      refine ⟨by omega, ?_⟩
      unfold daysBefore at late ⊢
      omega

/-- A day counted from the start of months falls into one of them. -/
theorem monthOf_spec (lengths : List Nat) (first day : Nat) (inside : day < lengths.sum) :
    ∃ passed length rest, monthOf lengths first day = (first + passed, rest + 1) ∧
      lengths[passed]? = some length ∧ rest < length ∧ (lengths.take passed).sum + rest = day := by
  induction lengths generalizing first day with
  | nil => simp at inside
  | cons length later ih =>
    by_cases here : day < length
    · exact ⟨0, length, day, by simp [monthOf, here], rfl, here, by simp⟩
    · -- A later month is found by counting from its own start.
      rw [List.sum_cons] at inside
      obtain ⟨passed, found, rest, same, named, short, total⟩ :=
        ih (first + 1) (day - length) (by omega)
      refine ⟨passed + 1, found, rest, ?_, by simpa using named, short, ?_⟩
      · rw [monthOf, if_neg here, same]
        congr 1
        omega
      · rw [List.take_succ_cons, List.sum_cons]
        omega

end Calendar

namespace Date

open Calendar

/-- The month of a date is one of twelve, its day of month is in it, and they name the date. -/
theorem civil_spec (date : Date) :
    1 ≤ date.civil.2.1 ∧ date.civil.2.1 ≤ 12 ∧ 1 ≤ date.civil.2.2 ∧ date.civil.2.2 ≤ 31 ∧
      ofCivil? date.civil.1 date.civil.2.1 date.civil.2.2 = some date := by
  -- The year holds the day, and the month holds what is left of it in the year.
  obtain ⟨begins, ends⟩ := yearOf_spec date.day
  rw [daysBefore_succ] at ends
  have inside : (date.day - daysBefore (yearOf date.day)).toNat <
      (monthLengths (isLeap (yearOf date.day))).sum := by omega
  obtain ⟨passed, length, rest, same, named, short, total⟩ :=
    monthOf_spec _ 1 _ inside
  have civil : date.civil = (yearOf date.day, 1 + passed, rest + 1) := by
    simp only [Date.civil, same]
  have twelve : passed < 12 := by
    obtain ⟨within, _⟩ := List.getElem?_eq_some_iff.mp named
    simpa [monthLengths] using within
  have longest : length ≤ 31 := by
    have months : ∀ leap, ∀ length ∈ monthLengths leap, length ≤ 31 := by decide
    exact months _ length (List.mem_of_getElem? named)
  -- Days before the year, in the months passed and in the month make up the date.
  have days : daysBefore (yearOf date.day) +
      (((monthLengths (isLeap (yearOf date.day))).take passed).foldl (· + ·) rest : Nat) =
        date.day := by
    rw [← Nat.add_zero rest, List.foldl_assoc, ← List.sum_eq_foldl_nat]
    omega
  rw [civil]
  refine ⟨by simp, by simp only; omega, by simp, by simp only; omega, ?_⟩
  simp only [ofCivil?, Nat.add_sub_cancel_left, named, Nat.add_sub_cancel]
  rw [if_pos ⟨by omega, by omega, by omega⟩]
  simp only [ofDay?, days, date.inRange, and_self, dite_true]

/-- A padded number is made of digits. -/
theorem isDigit_of_mem_padded {width value : Nat} {c : Char} (member : c ∈ padded width value) :
    c.isDigit = true := by
  rcases List.mem_append.mp member with zero | digit
  · rw [List.eq_of_mem_replicate zero]
    rfl
  · exact Nat.isDigit_of_mem_toDigits (by decide) (by decide) digit

/-- A padded number has at least one digit. -/
theorem padded_ne_nil (width value : Nat) : padded width value ≠ [] := by
  intro empty
  exact Nat.toDigits_ne_nil (List.append_eq_nil_iff.mp empty).2

/-- The digits of a padded number are those of the number. -/
theorem ofDigitChars_padded (width value : Nat) :
    Nat.ofDigitChars 10 (padded width value) 0 = value := by
  simp only [padded, Nat.ofDigitChars_append, Nat.ofDigitChars_replicate_zero, Nat.mul_zero,
    Nat.ofDigitChars_ten_toDigits]

/-- A number that fits a width is padded to no more than that width. -/
theorem length_padded_le {width value : Nat} (positive : 0 < width) (fits : value < 10 ^ width) :
    (padded width value).length ≤ width := by
  have short := (Nat.length_toDigits_le_iff (by decide) positive).mpr fits
  simp only [padded, List.length_append, List.length_replicate]
  omega

/-- No digit stands in front. -/
def NoDigit (text : List Char) : Prop :=
  ∀ c ∈ text.head?, c.isDigit = false

/-- A padded number reads back up to the text that ends it. -/
theorem readNumber_padded {limit width value : Nat} {rest : List Char}
    (room : (padded width value).length ≤ limit) (ends : NoDigit rest) :
    readNumber limit (padded width value ++ rest) = some (value, rest) := by
  -- The text after the number starts with no digit, so the digits end with the number.
  have digits : ((padded width value ++ rest).take limit).takeWhile Char.isDigit =
      padded width value := by
    have beyond : (rest.take (limit - (padded width value).length)).takeWhile Char.isDigit = [] := by
      cases rest with
      | nil => simp
      | cons c rest =>
        have head := ends c rfl
        cases limit - (padded width value).length with
        | zero => rfl
        | succ more => simp [head]
    rw [List.take_append, List.take_of_length_le room,
      List.takeWhile_append_of_pos fun c member => isDigit_of_mem_padded member, beyond,
      List.append_nil]
  have nonempty : (padded width value).isEmpty = false := by
    simpa using padded_ne_nil width value
  simp only [readNumber, digits, nonempty, Bool.false_eq_true, if_false, ofDigitChars_padded,
    List.drop_left]

/-- A padded number opens with a digit. -/
theorem padded_opens (width value : Nat) :
    ∃ c later, padded width value = c :: later ∧ c.isDigit = true := by
  cases shape : padded width value with
  | nil => exact absurd shape (padded_ne_nil width value)
  | cons c later =>
    exact ⟨c, later, rfl, isDigit_of_mem_padded (by rw [shape]; exact List.mem_cons_self)⟩

/-- A digit is no blank and no sign. -/
theorem digit_plain {c : Char} (digit : c.isDigit = true) :
    isBlank c = false ∧ c ≠ '-' ∧ c ≠ '+' := by
  simp only [Char.isDigit, Bool.and_eq_true, decide_eq_true_eq] at digit
  have low : 48 ≤ c.toNat := digit.1
  have high : c.toNat ≤ 57 := digit.2
  -- There are ten digits, and each is looked at.
  have all : ∀ n < 58, 48 ≤ n →
      isBlank (Char.ofNat n) = false ∧ Char.ofNat n ≠ '-' ∧ Char.ofNat n ≠ '+' := by decide
  simpa only [Char.ofNat_toNat] using all c.toNat (by omega) low

/-- A year reads back up to the hyphen after it. -/
theorem readYear_renderYear (year : Int) (rest : List Char) :
    readYear (renderYear year ++ '-' :: rest) = some (year, '-' :: rest) := by
  have ends : NoDigit ('-' :: rest) := by
    intro c same
    simp only [List.head?_cons, Option.mem_some_iff] at same
    subst same
    rfl
  have room : (padded 4 year.natAbs).length ≤ (padded 4 year.natAbs ++ '-' :: rest).length := by
    simp
  -- A sign is written exactly where four digits without a sign would not be read back.
  unfold renderYear
  split
  · rename_i negative
    simp only [readYear, List.cons_append, readNumber_padded room ends, Option.map_some]
    congr 2
    omega
  · split
    · rename_i late
      simp only [readYear, List.cons_append, readNumber_padded room ends, Option.map_some]
      congr 2
      omega
    · obtain ⟨c, later, opens, digit⟩ := padded_opens 4 year.natAbs
      -- Without a sign there are at most four digits, which is all that is read.
      have four : (padded 4 year.natAbs).length ≤ 4 :=
        length_padded_le (by decide) (by omega)
      have read := readNumber_padded four ends
      have positive : ((year.natAbs : Nat) : Int) = year := by omega
      -- The first digit is no sign, so the branches for signs are left out.
      rw [opens, List.cons_append] at read ⊢
      unfold readYear
      split
      · rename_i same
        exact absurd (List.cons.inj same).1 (digit_plain digit).2.1
      · rename_i same
        exact absurd (List.cons.inj same).1 (digit_plain digit).2.2
      · simp only [read, Option.map_some, positive]

/-- A text that opens with a character that is no blank has no blanks to drop. -/
theorem dropWhile_isBlank_padded (width value : Nat) (rest : List Char) :
    (padded width value ++ rest).dropWhile isBlank = padded width value ++ rest := by
  obtain ⟨c, later, opens, digit⟩ := padded_opens width value
  rw [opens, List.cons_append, List.dropWhile_cons_of_neg (by simp [(digit_plain digit).1])]

/-- A year has no blanks in front. -/
theorem dropWhile_isBlank_renderYear (year : Int) (rest : List Char) :
    (renderYear year ++ rest).dropWhile isBlank = renderYear year ++ rest := by
  unfold renderYear
  -- A year opens with a sign or with a digit, and neither is a blank.
  split
  · rfl
  · split
    · rfl
    · exact dropWhile_isBlank_padded 4 year.natAbs rest

/-- A hyphen before a padded number is read without blanks around it. -/
theorem readHyphen_padded (width value : Nat) (rest : List Char) :
    readHyphen ('-' :: (padded width value ++ rest)) = some (padded width value ++ rest) := by
  have hyphen : ('-' :: (padded width value ++ rest)).dropWhile isBlank =
      '-' :: (padded width value ++ rest) := rfl
  simp only [readHyphen, hyphen, dropWhile_isBlank_padded]

/-- A date reads back from its text. -/
theorem parse?_render (date : Date) : parse? date.render = some date := by
  obtain ⟨_, month, _, day, same⟩ := civil_spec date
  have monthRoom : (padded 2 date.civil.2.1).length ≤ 2 :=
    length_padded_le (by decide) (by omega)
  have dayRoom : (padded 2 date.civil.2.2).length ≤ 2 :=
    length_padded_le (by decide) (by omega)
  -- Each number ends where a hyphen or the end of the text follows.
  have hyphenEnds : NoDigit ('-' :: padded 2 date.civil.2.2) := by
    intro c head
    simp only [List.head?_cons, Option.mem_some_iff] at head
    subst head
    rfl
  have readMonth := readNumber_padded monthRoom hyphenEnds
  -- After the day the text ends.
  have noMore : NoDigit [] := by simp [NoDigit]
  have readDay := readNumber_padded dayRoom noMore
  have afterDay := readHyphen_padded 2 date.civil.2.2 []
  rw [List.append_nil] at readDay afterDay
  simp only [parse?, render, List.append_assoc, List.cons_append,
    dropWhile_isBlank_renderYear, readYear_renderYear, readHyphen_padded, readMonth, readDay,
    afterDay, Option.bind_eq_bind, Option.bind_some, List.dropWhile_nil, List.isEmpty_nil,
    if_true]
  exact same

end Date

end TemplateLint
