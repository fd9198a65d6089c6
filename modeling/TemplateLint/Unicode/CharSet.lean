import TemplateLint.Text.Basic
import TemplateLint.Unicode.Folding

/-! Sets of characters, kept as the operations that make them. -/

namespace TemplateLint

/-- A set of characters: ranges of code points, and what is made of other sets. -/
inductive CharSet where
  | ranges (list : List (Nat × Nat))
  | union (left right : CharSet)
  | inter (left right : CharSet)
  | complement (set : CharSet)
  deriving Repr, DecidableEq, Inhabited

namespace CharSet

/-- A code point is in a set. -/
def has : CharSet → Nat → Bool
  | .ranges list, code => list.any fun (first, last) => first ≤ code && code ≤ last
  | .union left right, code => left.has code || right.has code
  | .inter left right, code => left.has code && right.has code
  | .complement set, code => !set.has code

/-- A character is in a set. -/
def contains (set : CharSet) (c : Char) : Bool :=
  set.has c.toNat

/-- No character. -/
def empty : CharSet :=
  .ranges []

/-- Every character. -/
def all : CharSet :=
  .ranges [(0, 0x10ffff)]

/-- The characters from one to another. -/
def range (first last : Char) : CharSet :=
  .ranges [(first.toNat, last.toNat)]

/-- One character alone. -/
def single (c : Char) : CharSet :=
  range c c

/-- The characters of the first set that are not in the second. -/
def difference (left right : CharSet) : CharSet :=
  .inter left (.complement right)

/-- The characters in exactly one of two sets. -/
def symmetricDifference (left right : CharSet) : CharSet :=
  .union (difference left right) (difference right left)

/-- The characters of all sets of a list. -/
def unionOf (sets : List CharSet) : CharSet :=
  sets.foldl union empty

/-- A range joined with those of a list in order, wherever one does not lie beyond the other. -/
def joined (first last : Nat) : List (Nat × Nat) → List (Nat × Nat)
  | [] => [(first, last)]
  | (next, stop) :: later =>
    if next ≤ last + 1 then joined first (max last stop) later
    else (first, last) :: joined next stop later

/-- The same code points in as few ranges as can be, in order. -/
def normal (list : List (Nat × Nat)) : List (Nat × Nat) :=
  match list.mergeSort fun one other => one.1 ≤ other.1 with
  | [] => []
  | (first, last) :: later => joined first last later

/-- The code points from a start on that lie between ranges in order. -/
def gaps (start : Nat) : List (Nat × Nat) → List (Nat × Nat)
  | [] => if start ≤ 0x10ffff then [(start, 0x10ffff)] else []
  | (first, last) :: later =>
    if start < first then (start, first - 1) :: gaps (last + 1) later else gaps (last + 1) later

/-- A set as ranges in order, as few as can be. -/
def toRanges : CharSet → List (Nat × Nat)
  | .ranges list => normal list
  | .union left right => normal (left.toRanges ++ right.toRanges)
  | .inter left right => gaps 0 (normal (gaps 0 left.toRanges ++ gaps 0 right.toRanges))
  | .complement set => gaps 0 set.toRanges

/-- The range that a text such as `41-5a` or `5f` writes. -/
def rangeOfHex? (text : List Char) : Option (Nat × Nat) :=
  match Text.cutAt '-' text with
  | some (first, last) => do some (← Text.hexNumber? first, ← Text.hexNumber? last)
  | none => (Text.hexNumber? text).map fun code => (code, code)

/-- The set that ranges of hexadecimal code points list. -/
def ofHex (text : String) : CharSet :=
  .ranges ((Text.words text.toList).filterMap rangeOfHex?)

/-- The classes of characters that differ in case alone. -/
def caseClasses : List (List Nat) :=
  (Text.words Unicode.foldingClasses.toList).map fun line =>
    (Text.splitOn '=' line).filterMap Text.hexNumber?

/-- A set with every character that differs from one of its characters in case alone. -/
def folded (set : CharSet) : CharSet :=
  let met := caseClasses.filter fun codes => codes.any set.has
  .union set (.ranges (met.flatten.map fun code => (code, code)))

/-- The letters of a set in both cases, as far as they are ASCII. -/
def foldedAscii (set : CharSet) : CharSet :=
  let letters := (List.range 26).filter fun n => set.has (n + 0x41) || set.has (n + 0x61)
  .union set (.ranges (letters.flatMap fun n => [(n + 0x41, n + 0x41), (n + 0x61, n + 0x61)]))

end CharSet

end TemplateLint
