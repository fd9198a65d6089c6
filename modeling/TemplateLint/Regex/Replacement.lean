import TemplateLint.Regex.Search

/-! Texts that are put in the place of matches. -/

namespace TemplateLint

namespace Regex

/-- A part of a replacement: text, or what a group of the match holds. -/
inductive ReplacementPart where
  | char (c : Char)
  | numbered (index : Nat)
  | named (name : List Char)
  deriving Repr, DecidableEq

/-- A letter in the name of a group that stands without braces. -/
def isReferenceLetter (c : Char) : Bool :=
  c.isAlphanum || c = '_'

/-- The number that a reference writes, with a plus sign or without. -/
def referenceNumber? (written : List Char) : Option Nat :=
  let digits := match written with
    | '+' :: digits => digits
    | digits => digits
  if !digits.isEmpty && digits.all Char.isDigit then
    some (digits.foldl (fun number c => number * 10 + (c.toNat - 0x30)) 0)
  else none

/-- The group that a reference names or counts. -/
def referenceTo (written : List Char) : ReplacementPart :=
  match referenceNumber? written with
  | some index => .numbered index
  | none => .named written

/-- The reference that follows a dollar sign, and how many characters it takes. -/
def reference? : List Char → Option (ReplacementPart × Nat)
  -- Two dollar signs stand for one.
  | '$' :: _ => some (.char '$', 1)
  | '\x7b' :: rest =>
    (Text.cutAt '\x7d' rest).map fun (name, _) => (referenceTo name, name.length + 2)
  | rest =>
    -- Without braces a name is as long as it can be.
    let name := rest.takeWhile isReferenceLetter
    if name.isEmpty then none else some (referenceTo name, name.length)

/-- The parts of a replacement, after as many characters as told. -/
def replacementParts : Nat → List Char → List ReplacementPart
  | _, [] => []
  | skipped + 1, _ :: rest => replacementParts skipped rest
  | 0, c :: rest =>
    if c = '$' then
      match reference? rest with
      | some (part, length) => part :: replacementParts length rest
      -- A dollar sign that no name follows stands for itself.
      | none => .char c :: replacementParts 0 rest
    else .char c :: replacementParts 0 rest

namespace ReplacementPart

/-- The text of a part for a match; what the expression has no group for is empty. -/
def expand (names : List (List Char × Nat)) (text : List Char) (found : Match) :
    ReplacementPart → List Char
  | .char c => [c]
  | .numbered index => found.groupText text index
  | .named name =>
    match names.lookup name with
    | some index => found.groupText text index
    | none => []

end ReplacementPart

/-- A text from a place on with each match replaced. -/
def splice (replace : Match → List Char) : Nat → List Char → List Match → List Char
  | _, rest, [] => rest
  | index, rest, found :: later =>
    -- What stands before the match is kept.
    rest.take (found.start - index) ++ replace found ++
      splice replace found.stop (rest.drop (found.stop - index)) later

end Regex

end TemplateLint
