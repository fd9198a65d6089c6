import TemplateLint.Regex.Expression

/-! What patterns mean under the flags in force. -/

namespace TemplateLint

namespace Regex

/-- The flags in force, as far as they change what a pattern matches. -/
structure Flags where
  ignoreCase : Bool
  multiLine : Bool
  dotMatchesNewline : Bool
  lazyFirst : Bool
  unicode : Bool
  crlf : Bool
  deriving Repr, DecidableEq

namespace Flags

/-- The flags that a pattern starts with. -/
def standard : Flags :=
  ⟨false, false, false, false, true, false⟩

/-- The flags after a change. -/
def change (flags : Flags) (change : FlagChange) : Flags where
  ignoreCase := change.apply .ignoreCase flags.ignoreCase
  multiLine := change.apply .multiLine flags.multiLine
  dotMatchesNewline := change.apply .dotMatchesNewline flags.dotMatchesNewline
  lazyFirst := change.apply .lazyFirst flags.lazyFirst
  unicode := change.apply .unicode flags.unicode
  crlf := change.apply .crlf flags.crlf

/-- A set with both cases of its letters, if case is ignored. -/
def fold (flags : Flags) (set : CharSet) : CharSet :=
  if !flags.ignoreCase then set
  else if flags.unicode then set.folded
  else set.foldedAscii

/-- The characters that are not in a set; without Unicode these would be bytes that are no text. -/
def negate? (flags : Flags) (negated : Bool) (set : CharSet) : Option CharSet :=
  if !negated then some set
  else if flags.unicode then some (.complement set)
  else none

/-- The characters that continue a word. -/
def words (flags : Flags) : CharSet :=
  if flags.unicode then Unicode.wordCharacters
  else .ranges [(0x30, 0x39), (0x41, 0x5a), (0x5f, 0x5f), (0x61, 0x7a)]

/-- The characters that have a letter of their own. -/
def shorthand (flags : Flags) : Shorthand → CharSet
  | .word => flags.words
  | .digit => if flags.unicode then Unicode.digits else .range '0' '9'
  | .blank => if flags.unicode then Unicode.blanks else .ranges [(9, 13), (0x20, 0x20)]

/-- A character outside brackets; without Unicode, a byte beyond ASCII is no text. -/
def literal? (flags : Flags) (literal : Literal) : Option Char :=
  if flags.unicode || !literal.isByte || literal.char.toNat < 128 then some literal.char else none

/-- A character in brackets; without Unicode, only ASCII. -/
def member? (flags : Flags) (literal : Literal) : Option Char :=
  if flags.unicode || literal.char.toNat < 128 then some literal.char else none

/-- The characters with a property, which only Unicode knows. -/
def property? (flags : Flags) (property : Property) : Option CharSet :=
  if !flags.unicode then none
  else
    match property with
    | .named name => Unicode.named? name
    | .valued kind value => Unicode.valued? kind value

/-- The place that an anchor stands for. -/
def look (flags : Flags) : Anchor → Look
  | .textStart => .textStart
  | .textEnd => .textEnd
  -- Without the flag for several lines the only line is the whole text.
  | .lineStart =>
    if !flags.multiLine then .textStart else if flags.crlf then .crlfStart else .lineStart
  | .lineEnd => if !flags.multiLine then .textEnd else if flags.crlf then .crlfEnd else .lineEnd
  | .wordBoundary => .wordBoundary flags.words
  | .noWordBoundary => .noWordBoundary flags.words
  | .wordStart => .wordStart flags.words
  | .wordEnd => .wordEnd flags.words
  | .wordStartHalf => .wordStartHalf flags.words
  | .wordEndHalf => .wordEndHalf flags.words

/-- The characters that a dot stands for, which only Unicode knows. -/
def anyChar? (flags : Flags) : Option CharSet :=
  if !flags.unicode then none
  else if flags.dotMatchesNewline then some .all
  else if flags.crlf then some (.complement (.ranges [(10, 10), (13, 13)]))
  else some (.complement (.single '\n'))

end Flags

namespace SetOperator

/-- The set that an operator makes of two. -/
def apply : SetOperator → CharSet → CharSet → CharSet
  | .inter, left, right => .inter left right
  | .difference, left, right => .difference left right
  | .symmetricDifference, left, right => .symmetricDifference left right

end SetOperator

namespace SetPattern

/-- The characters of a set; both cases of a letter come in before a set is negated. -/
def meaning? (flags : Flags) : SetPattern → Option CharSet
  | .nothing => some .empty
  | .literal own => (flags.member? own).map .single
  | .range first last => do some (.range (← flags.member? first) (← flags.member? last))
  -- The sets that have a letter hold both cases already.
  | .shorthand kind negated => flags.negate? negated (flags.shorthand kind)
  | .posix ranges negated => flags.negate? negated (flags.fold (.ranges ranges))
  | .property own negated => do
    flags.negate? negated (flags.fold (← flags.property? own))
  | .join left right => do some (.union (← left.meaning? flags) (← right.meaning? flags))
  -- Both sides are folded before an operator compares them.
  | .combine operator left right => do
    let left ← left.meaning? flags
    let right ← right.meaning? flags
    some (operator.apply (flags.fold left) (flags.fold right))
  | .bracketed negated body => do
    flags.negate? negated (flags.fold (← body.meaning? flags))

end SetPattern

namespace Pattern

/--
What a pattern matches under flags, and the flags for what follows it in its group. Flags that a
group changes end with it.
-/
def meaning? (flags : Flags) : Pattern → Option (Expression × Flags)
  | .empty => some (.empty, flags)
  | .literal own => do
    let c ← flags.literal? own
    some (.char (flags.fold (.single c)), flags)
  | .anyChar => do some (.char (← flags.anyChar?), flags)
  | .set members => do some (.char (← members.meaning? flags), flags)
  | .anchor place => some (.look (flags.look place), flags)
  -- Flags match nothing and change what comes after them.
  | .flags change => some (.empty, flags.change change)
  -- A group leaves the flags as they were before it.
  | .group (.capturing index) body => do
    let (body, _) ← body.meaning? flags
    some (.group index body, flags)
  | .group (.plain change) body => do
    let (body, _) ← body.meaning? (flags.change change)
    some (body, flags)
  | .sequence first second => do
    let (first, flags) ← first.meaning? flags
    let (second, flags) ← second.meaning? flags
    some (.sequence first second, flags)
  -- Flags that a branch changes stand in the branches after it too.
  | .choice first second => do
    let (first, flags) ← first.meaning? flags
    let (second, flags) ← second.meaning? flags
    some (.choice first second, flags)
  | .repeated least most greedy body => do
    let (body, flags) ← body.meaning? flags
    -- A flag swaps which of the two ways to repeat is meant by the bare sign.
    some (.ofRepetition least most (greedy != flags.lazyFirst) body, flags)

end Pattern

end Regex

end TemplateLint
