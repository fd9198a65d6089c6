import TemplateLint.Json.Basic
import TemplateLint.Text.Basic

/-! Reading JSON text. -/

namespace TemplateLint

namespace Json

/-- White space between tokens. -/
def isSpace (c : Char) : Bool :=
  c == ' ' || c == '\n' || c == '\r' || c == '\t'

/-- The text after leading white space. -/
def skipSpace (text : List Char) : List Char :=
  text.dropWhile isSpace

/-- What a quoted text is made of: a character, or the code of a surrogate. -/
inductive Piece where
  | char (value : Char)
  | surrogate (code : Nat)
  deriving DecidableEq

/-- The piece that four hexadecimal digits stand for. -/
def pieceOfHex? (a b c d : Char) : Option Piece := do
  let code := ((← Text.hexValue? a) * 16 + (← Text.hexValue? b)) * 256 +
    (← Text.hexValue? c) * 16 + (← Text.hexValue? d)
  if 0xd800 ≤ code ∧ code < 0xe000 then some (.surrogate code) else some (.char (Char.ofNat code))

/-- The character that a one-letter escape stands for. -/
def simpleEscape? (c : Char) : Option Char :=
  if c = '"' then some '"'
  else if c = '\\' then some '\\'
  else if c = '/' then some '/'
  else if c = 'n' then some '\n'
  else if c = 'r' then some '\r'
  else if c = 't' then some '\t'
  else if c = 'b' then some '\u0008'
  else if c = 'f' then some '\u000c'
  else none

/-- The pieces of a quoted text up to its closing quote, and the text after it. -/
def readPieces : List Char → Option (List Piece × List Char)
  | [] => none
  | '"' :: rest => some ([], rest)
  | '\\' :: 'u' :: a :: b :: c :: d :: rest =>
    match pieceOfHex? a b c d with
    | none => none
    | some piece => (readPieces rest).map fun (pieces, after) => (piece :: pieces, after)
  | '\\' :: c :: rest =>
    match simpleEscape? c with
    | none => none
    | some value => (readPieces rest).map fun (pieces, after) => (.char value :: pieces, after)
  | c :: rest =>
    -- A lone backslash at the end of the text and a raw control character are faults.
    if c < ' ' ∨ c = '\\' then none
    else (readPieces rest).map fun (pieces, after) => (.char c :: pieces, after)

/-- The characters of the pieces; a surrogate needs its counterpart beside it. -/
def joinPieces? : List Piece → Option (List Char)
  | [] => some []
  | .char c :: rest => (joinPieces? rest).map (c :: ·)
  | .surrogate high :: .surrogate low :: rest =>
    if high < 0xdc00 ∧ 0xdc00 ≤ low then
      (joinPieces? rest).map
        (Char.ofNat (0x10000 + (high - 0xd800) * 0x400 + (low - 0xdc00)) :: ·)
    else none
  | .surrogate _ :: _ => none

/-- The leading digits of a text, and the text after them. -/
def readDigits (text : List Char) : List Char × List Char :=
  (text.takeWhile Char.isDigit, text.dropWhile Char.isDigit)

/-- An optional fraction: its digits, none if there is no point. -/
def readFraction (text : List Char) : Option (Option (List Char) × List Char) :=
  match text with
  | '.' :: rest =>
    let (digits, after) := readDigits rest
    if digits.isEmpty then none else some (some digits, after)
  | _ => some (none, text)

/-- An optional exponent. -/
def readExponent (text : List Char) : Option (Option Int × List Char) :=
  let signed (negative : Bool) (rest : List Char) : Option (Option Int × List Char) :=
    let (digits, after) := readDigits rest
    let value : Int := Nat.ofDigitChars 10 digits 0
    if digits.isEmpty then none else some (some (if negative then -value else value), after)
  match text with
  | c :: rest =>
    if c = 'e' ∨ c = 'E' then
      match rest with
      | '-' :: more => signed true more
      | '+' :: more => signed false more
      | _ => signed false rest
    else some (none, text)
  | [] => some (none, [])

/-- The largest and the smallest integers that keep their digits. -/
def isWord (value : Int) : Bool :=
  -9223372036854775808 ≤ value && value < 18446744073709551616

/-- The value of a number's parts. -/
def ofNumber (negative : Bool) (whole : List Char) (decimals : Option (List Char))
    (exponent : Option Int) : Json :=
  let digits := Nat.ofDigitChars 10 (whole ++ decimals.getD []) 0
  let value : Int := if negative then -(digits : Int) else digits
  -- Minus zero is no integer, since integers have one zero.
  if decimals.isNone && exponent.isNone && isWord value && !(negative && digits == 0) then
    .integer value
  else
    let decimal : Decimal :=
      ⟨negative, digits, exponent.getD 0 - ((decimals.getD []).length : Nat)⟩
    if decimal.isFinite then .fraction decimal else .valueless

/-- A number after its sign, and the text after it. -/
def readNumber (negative : Bool) (text : List Char) : Option (Json × List Char) := do
  let (whole, afterWhole) := readDigits text
  if whole.isEmpty || (whole.head? == some '0' && 1 < whole.length) then none
  let (decimals, afterDecimals) ← readFraction afterWhole
  let (exponent, after) ← readExponent afterDecimals
  some (ofNumber negative whole decimals exponent, after)

mutual
/-- A value within a number of nested steps, and the text after it. -/
def readValue : Nat → List Char → Option (Json × List Char)
  | 0, _ => none
  | steps + 1, text =>
    match skipSpace text with
    | 'n' :: 'u' :: 'l' :: 'l' :: rest => some (.null, rest)
    | 't' :: 'r' :: 'u' :: 'e' :: rest => some (.bool true, rest)
    | 'f' :: 'a' :: 'l' :: 's' :: 'e' :: rest => some (.bool false, rest)
    | '"' :: rest =>
      match readPieces rest with
      | none => none
      | some (pieces, after) =>
        match joinPieces? pieces with
        | some characters => some (.string (.ofList characters), after)
        | none => some (.valueless, after)
    | '[' :: rest =>
      match skipSpace rest with
      | ']' :: after => some (.array [], after)
      | _ => (readItems steps rest).map fun (items, after) => (.array items, after)
    | '{' :: rest =>
      match skipSpace rest with
      | '}' :: after => some (.object [], after)
      | _ =>
        match readFields steps rest with
        | none => none
        | some (some fields, after) => some (.object fields, after)
        | some (none, after) => some (.valueless, after)
    | '-' :: rest => readNumber true rest
    | rest => readNumber false rest

/-- Items up to the closing bracket, and the text after it. -/
def readItems : Nat → List Char → Option (List Json × List Char)
  | 0, _ => none
  | steps + 1, text =>
    match readValue steps text with
    | none => none
    | some (item, rest) =>
      match skipSpace rest with
      | ',' :: more => (readItems steps more).map fun (items, after) => (item :: items, after)
      | ']' :: after => some ([item], after)
      | _ => none

/-- Fields up to the closing brace, none of them if a key is no text, and the text after it. -/
def readFields : Nat → List Char → Option (Option (List (String × Json)) × List Char)
  | 0, _ => none
  | steps + 1, text =>
    match skipSpace text with
    | '"' :: rest =>
      match readPieces rest with
      | none => none
      | some (pieces, afterKey) =>
        let key := (joinPieces? pieces).map String.ofList
        match skipSpace afterKey with
        | ':' :: valueText =>
          match readValue steps valueText with
          | none => none
          | some (value, afterValue) =>
            let field := key.map (·, value)
            match skipSpace afterValue with
            | ',' :: more =>
              (readFields steps more).map fun (fields, after) =>
                (field.bind fun f => fields.map (f :: ·), after)
            | '}' :: after => some (field.map ([·]), after)
            | _ => none
        | _ => none
    | _ => none
end

/-- The value that a text writes, with nothing but white space around it. -/
def parse? (text : List Char) : Option Json :=
  match readValue (text.length + 1) text with
  | some (value, rest) => if (skipSpace rest).isEmpty then some value else none
  | none => none

end Json

end TemplateLint
