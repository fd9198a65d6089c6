import TemplateLint.Document.Node
import TemplateLint.Calendar.Date

/-! The values of a TOML text that are written without quotes: truth values, numbers and dates. -/

namespace TemplateLint

namespace Toml

/-- Digits of a base with single low lines between them, without these. -/
def plainDigits? (isDigit : Char → Bool) : List Char → Option (List Char)
  | [] => none
  | [c] => if isDigit c then some [c] else none
  -- A low line stands between two digits, so that one digit at least follows it.
  | c :: '_' :: rest => if isDigit c then (plainDigits? isDigit rest).map (c :: ·) else none
  | c :: rest => if isDigit c then (plainDigits? isDigit rest).map (c :: ·) else none

/-- A digit of base two. -/
def isBinary (c : Char) : Bool :=
  c = '0' || c = '1'

/-- A digit of base eight. -/
def isOctal (c : Char) : Bool :=
  '0' ≤ c && c ≤ '7'

/-- A digit of base sixteen. -/
def isHex (c : Char) : Bool :=
  (Text.hexValue? c).isSome

/-- The number that digits of a base write. -/
def numberIn (base : Nat) (digits : List Char) : Nat :=
  digits.foldl (fun number c => number * base + (Text.hexValue? c).getD 0) 0

/-- A sign and the text after it. -/
def cutSign : List Char → Bool × List Char
  | '-' :: rest => (true, rest)
  | '+' :: rest => (false, rest)
  | text => (false, text)

/-- Decimal digits of which no zero leads others. -/
def wholeDigits? (text : List Char) : Option (List Char) := do
  let digits ← plainDigits? Char.isDigit text
  if digits.head? = some '0' ∧ 1 < digits.length then none else some digits

/-- An integer. -/
def integer? (text : List Char) : Option Int :=
  match text with
  | '0' :: 'x' :: rest => (plainDigits? isHex rest).map fun digits => numberIn 16 digits
  | '0' :: 'o' :: rest => (plainDigits? isOctal rest).map fun digits => numberIn 8 digits
  | '0' :: 'b' :: rest => (plainDigits? isBinary rest).map fun digits => numberIn 2 digits
  -- Only a decimal number may have a sign.
  | _ =>
    let (negative, rest) := cutSign text
    (wholeDigits? rest).map fun digits =>
      let number : Int := numberIn 10 digits
      if negative then -number else number

/-- An integer as a document; it is 128 bits wide at most. -/
def integerNode? (value : Int) : Option Node :=
  if value < -170141183460469231731687303715884105728 ∨
      340282366920938463463374607431768211456 ≤ value then none
  -- No setting is a negative number.
  else if 0 ≤ value then some (.scalar { number := some value.toNat })
  else some .unreadable

/-- The mark of an exponent. -/
def isExponentMark (c : Char) : Bool :=
  c = 'e' || c = 'E'

/-- The exponent that stands behind its mark; it may lead with zeros. -/
def exponent? (text : List Char) : Option Int :=
  match text with
  | [] => some 0
  | _ :: rest =>
    let (negative, digits) := cutSign rest
    (plainDigits? Char.isDigit digits).map fun digits =>
      let number : Int := numberIn 10 digits
      if negative then -number else number

/-- A number with a fraction or an exponent, which a machine number comes near. -/
def isFraction (text : List Char) : Bool :=
  let (negative, rest) := cutSign text
  let mantissa := rest.takeWhile fun c => !isExponentMark c
  let power := rest.drop mantissa.length
  -- Without decimals there has to be an exponent, or the number is an integer.
  let parts := match Text.cutAt '.' mantissa with
    | some (whole, decimals) => do some (← wholeDigits? whole, ← plainDigits? Char.isDigit decimals)
    | none => if power.isEmpty then none else (wholeDigits? mantissa).map fun whole => (whole, [])
  match parts, exponent? power with
  | some (whole, decimals), some exponent =>
    (⟨negative, numberIn 10 (whole ++ decimals), exponent - decimals.length⟩ : Decimal).isFinite
  | _, _ => false

/-- One of the words for what is no finite number. -/
def isUnbounded (text : List Char) : Bool :=
  let (_, rest) := cutSign text
  rest = "inf".toList || rest = "nan".toList

/-- A number of so many digits at the start of a text, within bounds, and the text after it. -/
def field? (width least most : Nat) (text : List Char) : Option (Nat × List Char) :=
  let digits := text.take width
  if digits.length = width ∧ digits.all Char.isDigit then
    let number := numberIn 10 digits
    if least ≤ number ∧ number ≤ most then some (number, text.drop width) else none
  else none

/-- The text after a date at its start. -/
def afterDate? (text : List Char) : Option (List Char) := do
  let (year, text) ← field? 4 0 9999 text
  let (month, text) ← field? 2 1 12 (← Text.after? ['-'] text)
  let (day, text) ← field? 2 1 31 (← Text.after? ['-'] text)
  let _ ← Date.ofCivil? year month day
  some text

/-- The text after seconds and their fraction, which may be missing. -/
def afterSeconds? (text : List Char) : Option (List Char) :=
  match text with
  | ':' :: rest => do
    -- A minute may have one second more than sixty.
    let (_, text) ← field? 2 0 60 rest
    match text with
    | '.' :: rest =>
      if (rest.head?.any Char.isDigit) then some (rest.dropWhile Char.isDigit) else none
    | _ => some text
  | _ => some text

/-- The text after a time of day at its start. -/
def afterTime? (text : List Char) : Option (List Char) := do
  let (_, text) ← field? 2 0 23 text
  let (_, text) ← field? 2 0 59 (← Text.after? [':'] text)
  afterSeconds? text

/-- An offset from universal time. -/
def isOffset (text : List Char) : Bool :=
  match text with
  | [] => true
  | ['Z'] => true
  | ['z'] => true
  | sign :: rest =>
    (sign = '+' || sign = '-') &&
      match field? 2 0 23 rest with
      | some (_, ':' :: minutes) => (field? 2 0 59 minutes).any (·.2.isEmpty)
      | _ => false

/-- A date, a time of day, or both, then with an offset if one is given. -/
def isMoment (text : List Char) : Bool :=
  match afterDate? text with
  | some [] => true
  -- Only with a date before it may a time of day have an offset.
  | some (mark :: time) =>
    (mark = 'T' || mark = 't' || mark = ' ') && (afterTime? time).any isOffset
  | none => (afterTime? text).any List.isEmpty

/-- The document of a date: a record whose only field no settings have. -/
def moment (text : List Char) : Node :=
  .mapping [("moment", .scalar { text := some (.ofList text) })]

/-- What a word without quotes stands for. -/
def scalar? (text : List Char) : Option Node :=
  -- No setting is a truth value or a number that is not whole.
  if text = "true".toList ∨ text = "false".toList then some .unreadable
  else if isMoment text then some (moment text)
  else if isFraction text || isUnbounded text then some .unreadable
  else (integer? text).bind integerNode?

end Toml

end TemplateLint
