import TemplateLint.Regex.Pattern
import TemplateLint.Unicode.Lookup

/-! Regular expressions as what they match, with all flags worked in. -/

namespace TemplateLint

namespace Regex

/-- A place in a text, told by the characters beside it. -/
inductive Look where
  | textStart
  | textEnd
  | lineStart
  | lineEnd
  | crlfStart
  | crlfEnd
  | wordBoundary (words : CharSet)
  | noWordBoundary (words : CharSet)
  | wordStart (words : CharSet)
  | wordEnd (words : CharSet)
  | wordStartHalf (words : CharSet)
  | wordEndHalf (words : CharSet)
  deriving Repr, DecidableEq, Inhabited

/-- What a regular expression matches. -/
inductive Expression where
  | empty
  | char (set : CharSet)
  | look (look : Look)
  | group (index : Nat) (body : Expression)
  | sequence (first second : Expression)
  | choice (first second : Expression)
  | repeated (least : Nat) (most : Option Nat) (greedy : Bool) (body : Expression)
  deriving Repr, DecidableEq, Inhabited

namespace Look

/-- A character that is there belongs to a word. -/
def isWord (words : CharSet) (c : Option Char) : Bool :=
  c.any words.contains

/-- The place between two neighbours, either of which may be missing, is the one looked for. -/
def holds (previous next : Option Char) : Look → Bool
  | .textStart => previous.isNone
  | .textEnd => next.isNone
  | .lineStart => previous.isNone || previous = some '\n'
  | .lineEnd => next.isNone || next = some '\n'
  -- A carriage return and a line feed behind it are one line end.
  | .crlfStart =>
    previous.isNone || previous = some '\n' || (previous = some '\r' && next ≠ some '\n')
  | .crlfEnd => next.isNone || next = some '\r' || (next = some '\n' && previous ≠ some '\r')
  | .wordBoundary words => isWord words previous != isWord words next
  | .noWordBoundary words => isWord words previous == isWord words next
  | .wordStart words => !isWord words previous && isWord words next
  | .wordEnd words => isWord words previous && !isWord words next
  | .wordStartHalf words => !isWord words previous
  | .wordEndHalf words => !isWord words next

end Look

namespace Expression

/-- Nothing but empty texts can match. -/
def isZeroWidth : Expression → Bool
  | .empty => true
  | .char _ => false
  | .look _ => true
  | .group _ body => body.isZeroWidth
  | .sequence first second => first.isZeroWidth && second.isZeroWidth
  | .choice first second => first.isZeroWidth && second.isZeroWidth
  | .repeated _ _ _ body => body.isZeroWidth

/-- A repetition; what matches empty texts only is repeated once at most. -/
def ofRepetition (least : Nat) (most : Option Nat) (greedy : Bool) (body : Expression) :
    Expression :=
  let (least, most) :=
    if body.isZeroWidth then (min least 1, some (min (most.getD 1) 1)) else (least, most)
  if most = some 0 then .empty
  else if least = 1 ∧ most = some 1 then body
  else .repeated least most greedy body

/-- About how many states a set takes in an automaton that reads bytes in either direction. -/
def setCost (set : CharSet) : Nat :=
  match set.toRanges with
  | [] => 1
  -- A single range of ASCII is one state, and what lies beyond takes some for each byte.
  | [(first, last)] => if last < 128 then 1 else if first = last then 4 else 27
  | ranges => if ranges.all (·.2 < 128) then 2 else 25 + 2 * ranges.length

/-- About how many states an expression takes in an automaton. -/
def cost : Expression → Nat
  | .empty => 1
  | .char set => setCost set
  | .look _ => 1
  | .group _ body => body.cost + 2
  | .sequence first second => first.cost + second.cost
  | .choice first second => first.cost + second.cost + 2
  | .repeated least none _ body => max least 1 * body.cost + 3
  | .repeated least (some most) _ body =>
    least * body.cost + (most - least) * (body.cost + 1) + 1

/-- How many states may be taken; an expression that takes more is refused. -/
def costLimit : Nat :=
  327680

end Expression

end Regex

end TemplateLint
