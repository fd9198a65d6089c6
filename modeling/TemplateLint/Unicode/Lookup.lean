import TemplateLint.Unicode.Category
import TemplateLint.Unicode.CharSet
import TemplateLint.Unicode.Property
import TemplateLint.Unicode.Script

/-! Sets of characters by the names of Unicode properties, which are compared loosely. -/

namespace TemplateLint

namespace Unicode

/-- A name without blanks, low lines and hyphens, in lower case, as far as it is ASCII. -/
def squeezed (name : List Char) : List Char :=
  (name.filter fun c => c.toNat < 128 && c ≠ ' ' && c ≠ '_' && c ≠ '-').map Char.toLower

/-- A name as it is compared: squeezed, and without a leading `is` unless only a `c` is left. -/
def looseName (name : List Char) : List Char :=
  match name with
  | i :: s :: rest =>
    if i.toLower = 'i' ∧ s.toLower = 's' then
      if squeezed rest = ['c'] then ['i', 's', 'c'] else squeezed rest
    else squeezed name
  | _ => squeezed name

/-- One of the names that a table lists for an entry is a name in its loose form. -/
def isNamed (names : String) (name : List Char) : Bool :=
  (Text.words names.toList).any fun own => looseName own = name

/-- The characters of a category that takes no others together, by its short name. -/
def categoryPart (short : List Char) : CharSet :=
  match categoryTable.find? fun (names, _) => (Text.words names.toList).head? = some short with
  | some (_, ranges) => .ofHex ranges
  | none => .empty

/-- The characters of several categories, by their short names. -/
def categoryParts (shorts : String) : CharSet :=
  .unionOf ((Text.words shorts.toList).map categoryPart)

/-- Every character that has been given a meaning. -/
def assigned : CharSet :=
  .unionOf (categoryTable.map fun (_, ranges) => .ofHex ranges)

/-- The characters of a general category, or of one of three sets that are named like one. -/
def category? (name : List Char) : Option CharSet :=
  if name = "any".toList then some .all
  else if name = "assigned".toList then some assigned
  else if name = "ascii".toList then some (.ranges [(0, 127)])
  else if isNamed "Cn Unassigned" name then some (.complement assigned)
  else if isNamed "C Other" name then
    some (.union (categoryParts "Cc Cf Co") (.complement assigned))
  else
    match categoryGroups.find? fun (names, _) => isNamed names name with
    | some (_, shorts) => some (categoryParts shorts)
    | none =>
      (categoryTable.find? fun (names, _) => isNamed names name).map fun (_, ranges) =>
        .ofHex ranges

/-- The characters of a script. -/
def script? (name : List Char) : Option CharSet :=
  (scriptTable.find? fun (names, _) => isNamed names name).map fun (_, ranges) => .ofHex ranges

/-- The characters that are used with a script, be it their own or not. -/
def scriptExtension? (name : List Char) : Option CharSet :=
  (scriptTable.find? fun (names, _) => isNamed names name).map fun (names, ranges) =>
    let own := (Text.words names.toList).head?
    match scriptExtensions.find? fun (short, _) => own = some short.toList with
    | some (_, more, less) => .difference (.union (.ofHex ranges) (.ofHex more)) (.ofHex less)
    | none => .ofHex ranges

/-- The characters that have a yes-or-no property. -/
def property? (name : List Char) : Option CharSet :=
  (propertyTable.find? fun (names, _) => isNamed names name).map fun (_, categories, more, less) =>
    .difference (.union (categoryParts categories) (.ofHex more)) (.ofHex less)

/-- The set that a name alone stands for: a property, a category or a script, in this order. -/
def named? (name : List Char) : Option CharSet :=
  let name := looseName name
  (property? name).or ((category? name).or (script? name))

/-- The set that a kind of property and a value of it stand for. -/
def valued? (kind value : List Char) : Option CharSet :=
  let kind := looseName kind
  let value := looseName value
  if isNamed "gc General_Category" kind then category? value
  else if isNamed "sc Script" kind then script? value
  else if isNamed "scx Script_Extensions" kind then scriptExtension? value
  else none

/-- The characters that continue a word. -/
def wordCharacters : CharSet :=
  .ofHex wordRanges

/-- The decimal digits. -/
def digits : CharSet :=
  categoryPart "Nd".toList

/-- The blanks. -/
def blanks : CharSet :=
  .ranges [(9, 13), (0x20, 0x20), (0x85, 0x85), (0xa0, 0xa0), (0x1680, 0x1680), (0x2000, 0x200a),
    (0x2028, 0x2029), (0x202f, 0x202f), (0x205f, 0x205f), (0x3000, 0x3000)]

/-- A letter or a sign that is used like one. -/
def isAlphabetic (c : Char) : Bool :=
  if c.toNat < 128 then c.isAlpha
  else ((property? "alphabetic".toList).getD .empty).contains c

/-- An alphabetic character or a number of any kind. -/
def isAlphanumeric (c : Char) : Bool :=
  isAlphabetic c ||
    if c.toNat < 128 then c.isDigit else (categoryParts "Nd Nl No").contains c

end Unicode

end TemplateLint
