import TemplateLint.Text.Basic

/-! Calendar dates of the proleptic Gregorian calendar, counted in days and written year first. -/

namespace TemplateLint

namespace Calendar

/-- A year with a leap day. -/
def isLeap (year : Int) : Bool :=
  year % 4 == 0 && (year % 100 != 0 || year % 400 == 0)

/-- The number of days from the first day of year 0 to the first day of a year. -/
def daysBefore (year : Int) : Int :=
  365 * year + (year + 3) / 4 - (year + 99) / 100 + (year + 399) / 400

/-- The lengths of a year's months in order. -/
def monthLengths (leap : Bool) : List Nat :=
  [31, if leap then 29 else 28, 31, 30, 31, 30, 31, 31, 30, 31, 30, 31]

/-- The year that holds a day. -/
def yearOf (day : Int) : Int :=
  -- A mean year of 146097 / 400 days places the day at most one year off.
  let guess := day * 400 / 146097
  if day < daysBefore guess then guess - 1
  else if day < daysBefore (guess + 1) then guess
  else guess + 1

/-- The month, counted from the given one, and the day of month of a day counted from zero. -/
def monthOf : List Nat → Nat → Nat → Nat × Nat
  | [], month, day => (month, day + 1)
  | length :: later, month, day =>
    if day < length then (month, day + 1) else monthOf later (month + 1) (day - length)

/-- The first day of the earliest year that has dates. -/
def firstDay : Int :=
  daysBefore (-262143)

/-- The last day of the latest year that has dates. -/
def lastDay : Int :=
  daysBefore 262143 - 1

end Calendar

/-- A date, held as the number of days since the first day of year 0. -/
structure Date where
  day : Int
  inRange : Calendar.firstDay ≤ day ∧ day ≤ Calendar.lastDay
  deriving DecidableEq

namespace Date

/-- The date of a day, if it has one. -/
def ofDay? (day : Int) : Option Date :=
  if inRange : Calendar.firstDay ≤ day ∧ day ≤ Calendar.lastDay then some ⟨day, inRange⟩ else none

/-- The date a number of days later, if it has one. -/
def addDays? (date : Date) (days : Nat) : Option Date :=
  ofDay? (date.day + days)

/-- The first of two dates is no later. -/
def isAtMost (first second : Date) : Bool :=
  first.day ≤ second.day

/-- The date with a year, a month and a day of month, if there is one. -/
def ofCivil? (year : Int) (month day : Nat) : Option Date :=
  let lengths := Calendar.monthLengths (Calendar.isLeap year)
  match lengths[month - 1]? with
  | some length =>
    if 1 ≤ month ∧ 1 ≤ day ∧ day ≤ length then
      let earlier := (lengths.take (month - 1)).foldl (· + ·) (day - 1)
      ofDay? (Calendar.daysBefore year + earlier)
    else none
  | none => none

/-- The year, month and day of month of a date. -/
def civil (date : Date) : Int × Nat × Nat :=
  let year := Calendar.yearOf date.day
  let (month, day) := Calendar.monthOf (Calendar.monthLengths (Calendar.isLeap year)) 1
    (date.day - Calendar.daysBefore year).toNat
  (year, month, day)

/-- A number in decimal with leading zeros up to a width. -/
def padded (width value : Nat) : List Char :=
  let digits := Nat.toDigits 10 value
  List.replicate (width - digits.length) '0' ++ digits

/-- A year takes four digits, and a sign outside the years 0 to 9999. -/
def renderYear (year : Int) : List Char :=
  if year < 0 then '-' :: padded 4 year.natAbs
  else if 9999 < year then '+' :: padded 4 year.natAbs
  else padded 4 year.natAbs

/-- A date as year, month and day of month joined by hyphens. -/
def render (date : Date) : List Char :=
  let (year, month, day) := date.civil
  renderYear year ++ '-' :: padded 2 month ++ '-' :: padded 2 day

/-- A number of one digit up to a limit of digits, and the text after it. -/
def readNumber (limit : Nat) (text : List Char) : Option (Nat × List Char) :=
  let digits := (text.take limit).takeWhile Char.isDigit
  if digits.isEmpty then none
  else some (Nat.ofDigitChars 10 digits 0, text.drop digits.length)

/-- A year: up to four digits without a sign, any number of digits with one. -/
def readYear (text : List Char) : Option (Int × List Char) :=
  match text with
  | '-' :: rest => (readNumber rest.length rest).map fun (value, after) => (-(value : Int), after)
  | '+' :: rest => (readNumber rest.length rest).map fun (value, after) => ((value : Int), after)
  | _ => (readNumber 4 text).map fun (value, after) => ((value : Int), after)

/-- The text after a hyphen, which blanks may surround. -/
def readHyphen (text : List Char) : Option (List Char) :=
  match text.dropWhile isBlank with
  | '-' :: rest => some (rest.dropWhile isBlank)
  | _ => none

/-- The date that a text writes; blanks around the numbers do not count. -/
def parse? (text : List Char) : Option Date := do
  let (year, afterYear) ← readYear (text.dropWhile isBlank)
  let (month, afterMonth) ← readNumber 2 (← readHyphen afterYear)
  let (day, afterDay) ← readNumber 2 (← readHyphen afterMonth)
  if (afterDay.dropWhile isBlank).isEmpty then ofCivil? year month day else none

end Date

end TemplateLint
