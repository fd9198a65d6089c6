/-! Regular expressions as they are written. -/

namespace TemplateLint

namespace Regex

/-- What a letter between `(?` and `)` switches. -/
inductive Flag where
  | ignoreCase
  | multiLine
  | dotMatchesNewline
  | lazyFirst
  | unicode
  | crlf
  | ignoreBlanks
  deriving Repr, DecidableEq, Inhabited

/-- Flags that are switched on and off together. -/
structure FlagChange where
  on : List Flag
  off : List Flag
  deriving Repr, DecidableEq, Inhabited

namespace FlagChange

/-- What becomes of a flag. -/
def apply (change : FlagChange) (flag : Flag) (before : Bool) : Bool :=
  -- No flag is switched both ways at once.
  if flag ∈ change.on then true
  else if flag ∈ change.off then false
  else before

end FlagChange

/-- A character that stands for itself; two digits after `\x` may mean a byte. -/
structure Literal where
  char : Char
  isByte : Bool
  deriving Repr, DecidableEq, Inhabited

/-- The sets that have a letter. -/
inductive Shorthand where
  | digit
  | blank
  | word
  deriving Repr, DecidableEq, Inhabited

/-- A named property: one that a name alone finds, or a value of a kind of property. -/
inductive Property where
  | named (name : List Char)
  | valued (kind value : List Char)
  deriving Repr, DecidableEq, Inhabited

/-- The operators between the members of a bracketed set. -/
inductive SetOperator where
  | inter
  | difference
  | symmetricDifference
  deriving Repr, DecidableEq, Inhabited

/-- A set of characters as it is written. -/
inductive SetPattern where
  | nothing
  | literal (literal : Literal)
  | range (first last : Literal)
  | shorthand (kind : Shorthand) (negated : Bool)
  | posix (ranges : List (Nat × Nat)) (negated : Bool)
  | property (property : Property) (negated : Bool)
  | join (left right : SetPattern)
  | combine (operator : SetOperator) (left right : SetPattern)
  | bracketed (negated : Bool) (body : SetPattern)
  deriving Repr, DecidableEq, Inhabited

/-- A place in a text, as it is written. -/
inductive Anchor where
  | textStart
  | textEnd
  | lineStart
  | lineEnd
  | wordBoundary
  | noWordBoundary
  | wordStart
  | wordEnd
  | wordStartHalf
  | wordEndHalf
  deriving Repr, DecidableEq, Inhabited

/-- What a pair of parentheses does beside grouping. -/
inductive GroupKind where
  | capturing (index : Nat)
  | plain (change : FlagChange)
  deriving Repr, DecidableEq, Inhabited

/-- A regular expression as it is written. -/
inductive Pattern where
  | empty
  | literal (literal : Literal)
  | anyChar
  | set (members : SetPattern)
  | anchor (anchor : Anchor)
  | flags (change : FlagChange)
  | group (kind : GroupKind) (body : Pattern)
  | sequence (first second : Pattern)
  | choice (first second : Pattern)
  | repeated (least : Nat) (most : Option Nat) (greedy : Bool) (body : Pattern)
  deriving Repr, DecidableEq, Inhabited

namespace SetPattern

/-- The members of a set, latest first, as one set. -/
def ofMembers : List SetPattern → SetPattern
  | [] => .nothing
  | [member] => member
  | member :: earlier => .join (ofMembers earlier) member

/-- How deeply a set is nested; members side by side count once. -/
def height : Bool → SetPattern → Nat
  | joined, .join left right =>
    (if joined then 0 else 1) + max (left.height true) (right.height false)
  | _, .combine _ left right => 1 + max (left.height false) (right.height false)
  | _, .bracketed _ body => 1 + body.height false
  | _, _ => 0

end SetPattern

namespace Pattern

/-- The parts of a sequence, latest first, as one pattern. -/
def ofSequence : List Pattern → Pattern
  | [] => .empty
  | [part] => part
  | part :: earlier => .sequence (ofSequence earlier) part

/-- The branches of a choice, latest first, as one pattern. -/
def ofChoices : List Pattern → Pattern
  | [] => .empty
  | [branch] => branch
  | branch :: earlier => .choice (ofChoices earlier) branch

/-- What a pattern is part of, as far as its depth hangs on it. -/
inductive Place where
  | inSequence
  | inChoice
  | elsewhere
  deriving Repr, DecidableEq, Inhabited

/-- How deeply a pattern is nested; parts and branches side by side count once. -/
def height : Place → Pattern → Nat
  | place, .sequence first second =>
    (if place = .inSequence then 0 else 1) +
      max (first.height .inSequence) (second.height .elsewhere)
  | place, .choice first second =>
    (if place = .inChoice then 0 else 1) +
      max (first.height .inChoice) (second.height .elsewhere)
  | _, .group _ body => 1 + body.height .elsewhere
  | _, .repeated _ _ _ body => 1 + body.height .elsewhere
  -- Only a set in brackets is a level of its own.
  | _, .set members => members.height false
  | _, _ => 0

/-- The deepest nesting that is read. -/
def depthLimit : Nat :=
  250

/-- A repetition may follow this part. -/
def isRepeatable : Pattern → Bool
  | .empty => false
  | .flags _ => false
  | _ => true

end Pattern

end Regex

end TemplateLint
