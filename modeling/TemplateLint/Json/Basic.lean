/-! JSON values. -/

namespace TemplateLint

/-- A decimal fraction: an optional sign, and digits times a power of ten. -/
structure Decimal where
  negative : Bool
  digits : Nat
  exponent : Int
  deriving Repr, DecidableEq, Inhabited

namespace Decimal

/-- The same number with no trailing zero among its digits, reached within the given steps. -/
def shorten : Nat → Decimal → Decimal
  | 0, d => d
  | steps + 1, d =>
    if d.digits ≠ 0 ∧ d.digits % 10 = 0 then
      shorten steps { d with digits := d.digits / 10, exponent := d.exponent + 1 }
    else d

/-- The number with no trailing zero among its digits. -/
def normal (d : Decimal) : Decimal :=
  if d.digits = 0 then { d with exponent := 0 }
  else shorten (Nat.toDigits 10 d.digits).length d

/-- The number rounds to a finite binary number of double width. -/
def isFinite (d : Decimal) : Bool :=
  let length : Int := (Nat.toDigits 10 d.digits).length
  if d.digits = 0 ∨ length + d.exponent ≤ 308 then true
  else if 309 < length + d.exponent then false
  else
    -- The bound lies half a unit of the last place above the largest finite number.
    let bound := Nat.pow 2 1024 - Nat.pow 2 970
    match d.exponent with
    | .ofNat up => d.digits * Nat.pow 10 up < bound
    | .negSucc down => d.digits < bound * Nat.pow 10 (down + 1)

/-- Positional text from the thousandths to the quadrillions, an exponent beyond. -/
def render (d : Decimal) : List Char :=
  let n := d.normal
  let digits := Nat.toDigits 10 n.digits
  let point : Int := digits.length + n.exponent
  let sign := if d.negative then ['-'] else []
  let body :=
    if n.digits = 0 then ['0', '.', '0']
    else if 0 ≤ n.exponent ∧ point ≤ 16 then
      digits ++ List.replicate n.exponent.toNat '0' ++ ['.', '0']
    else if 0 < point ∧ point ≤ 16 then
      digits.take point.toNat ++ '.' :: digits.drop point.toNat
    else if -5 < point ∧ point ≤ 0 then
      '0' :: '.' :: List.replicate (-point).toNat '0' ++ digits
    else
      let fraction := match digits.drop 1 with
        | [] => []
        | more => '.' :: more
      let power := point - 1
      digits.take 1 ++ fraction ++ 'e' :: (if power < 0 then ['-'] else []) ++
        Nat.toDigits 10 power.natAbs
  sign ++ body

end Decimal

/--
A JSON value. A literal that is well formed but stands for no value, such as a number out of range
or a text with half of a surrogate pair, is kept apart: it is harmless where it is skipped.
-/
inductive Json where
  | null
  | bool (value : Bool)
  | integer (value : Int)
  | fraction (value : Decimal)
  | string (value : String)
  | valueless
  | array (items : List Json)
  | object (fields : List (String × Json))
  deriving Repr, BEq, Inhabited

namespace Json

/-- A natural number as a value. -/
def natural (value : Nat) : Json :=
  .integer value

/-- Text, or nothing, as a value. -/
def ofText? : Option String → Json
  | some value => .string value
  | none => .null

/-- The natural number that a value is. -/
def natural? : Json → Option Nat
  | .integer (.ofNat value) => some value
  | _ => none

/-- The text that a value is. -/
def text? : Json → Option String
  | .string value => some value
  | _ => none

/-- The last field of a name among an object's fields. -/
def lastField? (name : String) : List (String × Json) → Option Json
  | [] => none
  | (key, value) :: later =>
    match lastField? name later with
    | some found => some found
    | none => if key = name then some value else none

/-- The value under a name in an object; of several fields of that name the last counts. -/
def field? (value : Json) (name : String) : Option Json :=
  match value with
  | .object fields => lastField? name fields
  | _ => none

mutual
/-- The value and all its parts have a meaning, and nesting stays within a depth. -/
def isSound : Nat → Json → Bool
  | _, .valueless => false
  | 0, .array _ => false
  | 0, .object _ => false
  | depth + 1, .array items => areSound depth items
  | depth + 1, .object fields => areSoundFields depth fields
  | _, _ => true

/-- Every item is sound. -/
def areSound : Nat → List Json → Bool
  | _, [] => true
  | depth, item :: later => isSound depth item && areSound depth later

/-- Every field's value is sound. -/
def areSoundFields : Nat → List (String × Json) → Bool
  | _, [] => true
  | depth, (_, value) :: later => isSound depth value && areSoundFields depth later
end

/-- How deep a document that is kept as a whole may nest. -/
def depthLimit : Nat :=
  127

end Json

end TemplateLint
