import TemplateLint.Json.Basic

/-! JSON text, on one line or indented. -/

namespace TemplateLint

namespace Json

/-- One digit of a control character's escape. -/
def hexDigit (value : Nat) : Char :=
  if value < 10 then Char.ofNat (48 + value) else Char.ofNat (87 + value)

/-- A character as it stands between quotes. -/
def escape (c : Char) : List Char :=
  if c = '"' then ['\\', '"']
  else if c = '\\' then ['\\', '\\']
  else if c = '\n' then ['\\', 'n']
  else if c = '\r' then ['\\', 'r']
  else if c = '\t' then ['\\', 't']
  else if c = '\u0008' then ['\\', 'b']
  else if c = '\u000c' then ['\\', 'f']
  else if c < ' ' then ['\\', 'u', '0', '0', hexDigit (c.toNat / 16), hexDigit (c.toNat % 16)]
  else [c]

/-- The characters of a text as they stand between quotes. -/
def escapeAll : List Char → List Char
  | [] => []
  | c :: rest => escape c ++ escapeAll rest

/-- A text between quotes. -/
def quote (text : String) : List Char :=
  '"' :: escapeAll text.toList ++ ['"']

/-- An integer in decimal. -/
def renderInteger (value : Int) : List Char :=
  match value with
  | .ofNat n => Nat.toDigits 10 n
  | .negSucc n => '-' :: Nat.toDigits 10 (n + 1)

mutual
/-- A value on one line without blanks. -/
def compact : Json → List Char
  | .null => "null".toList
  | .bool true => "true".toList
  | .bool false => "false".toList
  | .integer value => renderInteger value
  | .fraction value => value.render
  | .string value => quote value
  | .valueless => "null".toList
  | .array items => '[' :: compactItems items ++ [']']
  | .object fields => '{' :: compactFields fields ++ ['}']

/-- Items with commas between them. -/
def compactItems : List Json → List Char
  | [] => []
  | [item] => compact item
  | item :: next :: later => compact item ++ ',' :: compactItems (next :: later)

/-- Fields with commas between them. -/
def compactFields : List (String × Json) → List Char
  | [] => []
  | [(key, value)] => quote key ++ ':' :: compact value
  | (key, value) :: next :: later =>
    quote key ++ ':' :: compact value ++ ',' :: compactFields (next :: later)
end

/-- A new line indented by a number of levels. -/
def newLine (level : Nat) : List Char :=
  '\n' :: List.replicate (2 * level) ' '

mutual
/-- A value with every item and field on a line of its own. -/
def indented (level : Nat) : Json → List Char
  | .null => "null".toList
  | .bool true => "true".toList
  | .bool false => "false".toList
  | .integer value => renderInteger value
  | .fraction value => value.render
  | .string value => quote value
  | .valueless => "null".toList
  | .array [] => ['[', ']']
  | .array (item :: later) =>
    '[' :: indentedItems (level + 1) (item :: later) ++ newLine level ++ [']']
  | .object [] => ['{', '}']
  | .object (field :: later) =>
    '{' :: indentedFields (level + 1) (field :: later) ++ newLine level ++ ['}']

/-- Items on lines of their own, with commas between them. -/
def indentedItems (level : Nat) : List Json → List Char
  | [] => []
  | [item] => newLine level ++ indented level item
  | item :: next :: later =>
    newLine level ++ indented level item ++ ',' :: indentedItems level (next :: later)

/-- Fields on lines of their own, with commas between them. -/
def indentedFields (level : Nat) : List (String × Json) → List Char
  | [] => []
  | [(key, value)] => newLine level ++ quote key ++ ':' :: ' ' :: indented level value
  | (key, value) :: next :: later =>
    newLine level ++ quote key ++ ':' :: ' ' :: indented level value ++
      ',' :: indentedFields level (next :: later)
end

/-- The text of a value on one line. -/
def render (value : Json) : String :=
  .ofList value.compact

/-- The text of a value over several lines. -/
def renderIndented (value : Json) : String :=
  .ofList (value.indented 0)

end Json

end TemplateLint
