import TemplateLint.Json.Basic

/-!
Settings documents, whatever their notation: scalars, sequences and mappings, and how records are
read off them.
-/

namespace TemplateLint

/-- What a scalar can be read as. -/
structure Scalar where
  /-- The scalar reads as this text. -/
  text : Option String := none
  /-- The scalar reads as this number. -/
  number : Option Nat := none
  /-- The scalar stands for no value where a value is optional. -/
  isNull : Bool := false
  /-- The scalar stands for a collection with nothing in it. -/
  isVoid : Bool := false
  deriving Repr, BEq, Inhabited

/-- A settings document; a strict sequence must be used up when a record is read off it. -/
inductive Node where
  | scalar (value : Scalar)
  | sequence (items : List Node) (strict : Bool)
  | mapping (entries : List (String × Node))
  deriving Repr, BEq, Inhabited

/-- What a document offers for one field of a record. -/
inductive Slot where
  | given (value : Node)
  | unnamed
  | beyond

namespace Node

/-- A scalar that can be read as nothing at all. -/
def unreadable : Node :=
  .scalar {}

/-- The value of a name among entries, refused when the name stands twice. -/
def slotNamed? (name : String) (entries : List (String × Node)) : Option Slot :=
  match entries.filter (·.1 = name) with
  | [] => some .unnamed
  | [(_, value)] => some (.given value)
  | _ => none

/-- The values of a sequence, one for each field. -/
def slotsInOrder (strict : Bool) : List String → List Node → Option (List Slot)
  | [], items => if strict && !items.isEmpty then none else some []
  | _ :: names, [] => (slotsInOrder strict names []).map (.beyond :: ·)
  | _ :: names, item :: items => (slotsInOrder strict names items).map (.given item :: ·)

/-- What a document offers for the fields of a record: by name, or in order if it is a sequence. -/
def slots? (names : List String) : Node → Option (List Slot)
  | .mapping entries => names.mapM fun name => slotNamed? name entries
  | .sequence items strict => slotsInOrder strict names items
  | .scalar value => if value.isVoid then some (names.map fun _ => .unnamed) else none

/-- The text that a scalar is. -/
def text? : Node → Option String
  | .scalar value => value.text
  | _ => none

/-- The number below a bound that a scalar is. -/
def numberBelow? (bound : Nat) : Node → Option Nat
  | .scalar value =>
    match value.number with
    | some n => if n < bound then some n else none
    | none => none
  | _ => none

/-- A value that may be absent. -/
def optional? {α : Type} (read : Node → Option α) (node : Node) : Option (Option α) :=
  match node with
  | .scalar value => if value.isNull then some none else (read node).map some
  | _ => (read node).map some

/-- The items of a list. -/
def items? {α : Type} (read : Node → Option α) : Node → Option (List α)
  | .sequence items _ => items.mapM read
  | .scalar value => if value.isVoid then some [] else none
  | .mapping _ => none

/-- The entries of a dictionary. -/
def entries? {α : Type} (read : Node → Option α) : Node → Option (List (String × α))
  | .mapping entries => entries.mapM fun (name, value) => (read value).map (name, ·)
  | .scalar value => if value.isVoid then some [] else none
  | .sequence _ _ => none

end Node

namespace Slot

/-- A field that must be given. -/
def required? {α : Type} (read : Node → Option α) : Slot → Option α
  | .given value => read value
  | _ => none

/-- A field with a default. -/
def defaulted? {α : Type} (read : Node → Option α) (default : α) : Slot → Option α
  | .given value => read value
  | _ => some default

/-- A field that may go without a name, but not without a place in a sequence. -/
def optional? {α : Type} (read : Node → Option α) : Slot → Option (Option α)
  | .given value => value.optional? read
  | .unnamed => some none
  | .beyond => none

end Slot

namespace Json

mutual
/-- A JSON value as a settings document. -/
def toNode : Json → Node
  | .null => .scalar { isNull := true }
  | .string value => .scalar { text := some value }
  | .integer (.ofNat value) => .scalar { number := some value }
  | .array items => .sequence (toNodes items) true
  | .object fields => .mapping (toEntries fields)
  | _ => .unreadable

/-- Items as documents. -/
def toNodes : List Json → List Node
  | [] => []
  | item :: later => toNode item :: toNodes later

/-- Fields as entries. -/
def toEntries : List (String × Json) → List (String × Node)
  | [] => []
  | (name, value) :: later => (name, toNode value) :: toEntries later
end

/-- The fields without those that a later field of the same name replaces. -/
def lastFields : List (String × Json) → List (String × Json)
  | [] => []
  | (name, value) :: later =>
    if later.any (·.1 = name) then lastFields later else (name, value) :: lastFields later

mutual
/-- A value in which every object keeps only the last field of each name. -/
def settled : Json → Json
  | .array items => .array (settledItems items)
  | .object fields => .object (lastFields (settledFields fields))
  | value => value

/-- Items with settled objects. -/
def settledItems : List Json → List Json
  | [] => []
  | item :: later => settled item :: settledItems later

/-- Fields with settled objects. -/
def settledFields : List (String × Json) → List (String × Json)
  | [] => []
  | (name, value) :: later => (name, settled value) :: settledFields later
end

end Json

end TemplateLint
