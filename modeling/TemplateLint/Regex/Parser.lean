import TemplateLint.Regex.Pattern
import TemplateLint.Unicode.Lookup

/-! Reading regular expressions. -/

namespace TemplateLint

namespace Regex

/-- What is still to be read, and what has been met on the way. -/
structure Source where
  rest : List Char
  ignoreBlanks : Bool
  groups : Nat
  names : List (List Char × Nat)
  deriving Repr, DecidableEq

/-- A step of reading, which may find that the text is no regular expression. -/
abbrev Reading := StateT Source Option

namespace Reading

/-- The text after blanks and comments, begun within a comment or not. -/
def afterBlanks : Bool → List Char → List Char
  | _, [] => []
  | true, c :: rest => afterBlanks (c != '\n') rest
  | false, c :: rest =>
    if isBlank c then afterBlanks false rest
    else if c = '#' then afterBlanks true rest
    else c :: rest

/-- Passes over blanks and comments, if they are ignored. -/
def skipBlanks : Reading Unit :=
  modify fun source =>
    if source.ignoreBlanks then { source with rest := afterBlanks false source.rest } else source

/-- The next character, which is left in place. -/
def peek : Reading (Option Char) := do
  pure (← get).rest.head?

/-- The next character. -/
def next : Reading Char := do
  match (← get).rest with
  | [] => failure
  | c :: rest =>
    modify fun source => { source with rest }
    pure c

/-- Passes over an expected text and says whether it is there. -/
def skip (expected : String) : Reading Bool := do
  match Text.after? expected.toList (← get).rest with
  | some rest =>
    modify fun source => { source with rest }
    pure true
  | none => pure false

/-- The next character is an expected one; blanks before it are passed over. -/
def expect (expected : Char) : Reading Unit := do
  skipBlanks
  guard ((← next) = expected)

/-- The characters up to a closing one, which is passed over. -/
def upTo (close : Char) : Nat → Reading (List Char)
  | 0 => failure
  | fuel + 1 => do
    skipBlanks
    let c ← next
    if c = close then pure []
    else do pure (c :: (← upTo close fuel))

/-- Passes over blanks, and over comments too if they are ignored. -/
def skipAllBlanks : Reading Unit := do
  modify fun source => { source with rest := source.rest.dropWhile isBlank }
  skipBlanks

/-- The decimal digits that come next. -/
def digits : Nat → Reading (List Char)
  | 0 => failure
  | fuel + 1 => do
    match ← peek with
    | some c =>
      if c.isDigit then do
        let _ ← next
        skipBlanks
        pure (c :: (← digits fuel))
      else pure []
    | none => pure []

/-- How many characters are left, and one more. -/
def fuel : Reading Nat := do
  pure ((← get).rest.length + 1)

/-- The greatest count that a repetition may name. -/
def countLimit : Nat :=
  0xffffffff

/-- The decimal number that comes next, with blanks around it. -/
def count : Reading Nat := do
  skipAllBlanks
  let written ← digits (← fuel)
  skipAllBlanks
  guard (!written.isEmpty)
  let number := written.foldl (fun number c => number * 10 + (c.toNat - 0x30)) 0
  guard (number ≤ countLimit)
  pure number

/-- The counts after an opening brace. -/
def bounds : Reading (Nat × Option Nat) := do
  skipBlanks
  let least ← count
  match ← next with
  | '\x7d' => pure (least, some least)
  | ',' =>
    skipBlanks
    -- Without a second number there is no limit.
    if ← skip "\x7d" then pure (least, none)
    else do
      let most ← count
      guard ((← next) = '\x7d' && least ≤ most)
      pure (least, some most)
  | _ => failure

/-- The character with a code. -/
def charOf (code : Nat) : Reading Char :=
  if code.isValidChar then pure (Char.ofNat code) else failure

/-- The number that a given count of hexadecimal digits writes, with blanks between them. -/
def hexDigits : Nat → Nat → Reading Nat
  | 0, number => pure number
  | digits + 1, number => do
    skipBlanks
    match Text.hexValue? (← next) with
    | some value => hexDigits digits (number * 16 + value)
    | none => failure

/-- The character that a hexadecimal escape writes, after its letter. -/
def hexEscape (length : Nat) : Reading Literal := do
  skipBlanks
  if ← skip "\x7b" then
    match Text.hexNumber? (← upTo '\x7d' (← fuel)) with
    | some code => pure ⟨← charOf code, false⟩
    | none => failure
  else
    let c ← charOf (← hexDigits length 0)
    -- Only two digits without braces may mean a byte.
    pure ⟨c, length = 2⟩

/-- The text before and after the first occurrence of a separator. -/
def cutAtText (separator : List Char) : List Char → Option (List Char × List Char)
  | [] => none
  | c :: rest =>
    match Text.after? separator (c :: rest) with
    | some after => some ([], after)
    | none => (cutAtText separator rest).map fun (before, after) => (c :: before, after)

/-- A property as it is written between braces, and whether an operator negates it. -/
def propertyOf (written : List Char) : Property × Bool :=
  -- The operator that negates is looked for first, since it ends with another one.
  match cutAtText ['!', '='] written with
  | some (kind, value) => (.valued kind value, true)
  | none =>
    match (Text.cutAt ':' written).or (Text.cutAt '=' written) with
    | some (kind, value) => (.valued kind value, false)
    | none => (.named written, false)

/-- The property after its letter; a capital letter negates. -/
def property (negated : Bool) : Reading Pattern := do
  skipBlanks
  if ← skip "\x7b" then
    let (property, flipped) := propertyOf (← upTo '\x7d' (← fuel))
    pure (.set (.property property (negated != flipped)))
  else
    let c ← next
    guard (c ≠ '\\')
    pure (.set (.property (.named [c]) negated))

/-- A letter or hyphen in the name of a boundary. -/
def isBoundaryLetter (c : Char) : Bool :=
  c.isAlpha || c = '-'

/-- The boundary that a name in braces stands for. -/
def boundary? (name : List Char) : Option Anchor :=
  if name = "start".toList then some .wordStart
  else if name = "end".toList then some .wordEnd
  else if name = "start-half".toList then some .wordStartHalf
  else if name = "end-half".toList then some .wordEndHalf
  else none

/-- A word boundary after its letter; braces that open with no letter belong to a repetition. -/
def boundary : Reading Pattern := do
  let before ← get
  if ← skip "\x7b" then
    skipBlanks
    match ← peek with
    | none => failure
    | some c =>
      if isBoundaryLetter c then
        match boundary? (← upTo '\x7d' (← fuel)) with
        | some anchor => pure (.anchor anchor)
        | none => failure
      else do
        set before
        pure (.anchor .wordBoundary)
  else pure (.anchor .wordBoundary)

/-- An ASCII character that stands for itself after a backslash. -/
def isEscapable (c : Char) : Bool :=
  c.toNat < 128 && !c.isAlphanum && c ≠ '<' && c ≠ '>'

/-- A character that stands for itself. -/
def plain (c : Char) : Pattern :=
  .literal ⟨c, false⟩

/-- What a backslash and the characters after it stand for. -/
def escape : Reading Pattern := do
  match ← next with
  | 'x' => pure (.literal (← hexEscape 2))
  | 'u' => pure (.literal (← hexEscape 4))
  | 'U' => pure (.literal (← hexEscape 8))
  | 'p' => property false
  | 'P' => property true
  | 'd' => pure (.set (.shorthand .digit false))
  | 'D' => pure (.set (.shorthand .digit true))
  | 's' => pure (.set (.shorthand .blank false))
  | 'S' => pure (.set (.shorthand .blank true))
  | 'w' => pure (.set (.shorthand .word false))
  | 'W' => pure (.set (.shorthand .word true))
  | 'a' => pure (plain '\x07')
  | 'f' => pure (plain '\x0c')
  | 't' => pure (plain '\t')
  | 'n' => pure (plain '\n')
  | 'r' => pure (plain '\r')
  | 'v' => pure (plain '\x0b')
  | 'A' => pure (.anchor .textStart)
  | 'z' => pure (.anchor .textEnd)
  | 'b' => boundary
  | 'B' => pure (.anchor .noWordBoundary)
  | '<' => pure (.anchor .wordStart)
  | '>' => pure (.anchor .wordEnd)
  | c => if isEscapable c then pure (plain c) else failure

/-- The ranges of the sets that have a name between colons. -/
def posixRanges : List (String × List (Nat × Nat)) := [
  ("alnum", [(0x30, 0x39), (0x41, 0x5a), (0x61, 0x7a)]),
  ("alpha", [(0x41, 0x5a), (0x61, 0x7a)]),
  ("ascii", [(0, 0x7f)]),
  ("blank", [(9, 9), (0x20, 0x20)]),
  ("cntrl", [(0, 0x1f), (0x7f, 0x7f)]),
  ("digit", [(0x30, 0x39)]),
  ("graph", [(0x21, 0x7e)]),
  ("lower", [(0x61, 0x7a)]),
  ("print", [(0x20, 0x7e)]),
  ("punct", [(0x21, 0x2f), (0x3a, 0x40), (0x5b, 0x60), (0x7b, 0x7e)]),
  ("space", [(9, 13), (0x20, 0x20)]),
  ("upper", [(0x41, 0x5a)]),
  ("word", [(0x30, 0x39), (0x41, 0x5a), (0x5f, 0x5f), (0x61, 0x7a)]),
  ("xdigit", [(0x30, 0x39), (0x41, 0x46), (0x61, 0x66)])]

/-- A set named between colons in brackets; what is no such name is left in place. -/
def posixSet? : Reading (Option SetPattern) := do
  let source ← get
  match source.rest with
  | '[' :: ':' :: inner =>
    let (negated, inner) := match inner with
      | '^' :: inner => (true, inner)
      | _ => (false, inner)
    let name := inner.takeWhile (· ≠ ':')
    -- Without the closing colon and bracket, or with a name that is unknown, this is a set in
    -- brackets.
    match inner.drop name.length, posixRanges.lookup (.ofList name) with
    | ':' :: ']' :: rest, some ranges =>
      set { source with rest }
      pure (some (.posix ranges negated))
    | _, _ => pure none
  | _ => pure none

/-- A bracketed set that is still open. -/
structure OpenSet where
  negated : Bool
  left : Option (SetOperator × SetPattern)
  members : List SetPattern
  deriving Repr, DecidableEq

namespace OpenSet

/-- An open set with one more member. -/
def push (level : OpenSet) (member : SetPattern) : OpenSet :=
  { level with members := member :: level.members }

/-- What an open set holds up to here. -/
def body (level : OpenSet) : SetPattern :=
  match level.left with
  | none => .ofMembers level.members
  | some (operator, left) => .combine operator left (.ofMembers level.members)

/-- An open set after an operator. -/
def operate (level : OpenSet) (operator : SetOperator) : OpenSet :=
  { level with left := some (operator, level.body), members := [] }

end OpenSet

/-- Hyphens at the start of a set, which stand for themselves. -/
def leadingHyphens : Nat → Reading (List SetPattern)
  | 0 => failure
  | fuel + 1 => do
    skipBlanks
    if ← skip "-" then do pure (.literal ⟨'-', false⟩ :: (← leadingHyphens fuel))
    else pure []

/-- The start of a bracketed set; a closing bracket that comes first stands for itself. -/
def openSet : Reading OpenSet := do
  expect '['
  skipBlanks
  let negated ← skip "^"
  let hyphens ← leadingHyphens (← fuel)
  -- Behind a hyphen a bracket closes the set.
  if hyphens.isEmpty && (← skip "]") then pure ⟨negated, none, [.literal ⟨']', false⟩]⟩
  else pure ⟨negated, none, hyphens⟩

/-- One member of a set, before it is known whether a range begins with it. -/
def setItem : Reading Pattern := do
  match ← next with
  | '\\' => escape
  | c => pure (plain c)

/-- The character after the next one; blanks between them are passed over if they are ignored. -/
def peekSecond : Reading (Option Char) := do
  let source ← get
  let later := source.rest.drop 1
  if source.ignoreBlanks then
    let later := later.dropWhile isBlank
    -- A comment is entered but not passed over.
    match later with
    | '#' :: comment => pure (comment.dropWhile isBlank).head?
    | _ => pure later.head?
  else pure later.head?

/-- A member of a set: a range, a character or a set that has a name. -/
def setMember : Reading SetPattern := do
  let first ← setItem
  skipBlanks
  match ← peek with
  | none => failure
  | some c =>
    let second ← peekSecond
    -- A hyphen at the end of a set, or before another one, makes no range.
    if c ≠ '-' || second = some ']' || second = some '-' then
      match first with
      | .literal literal => pure (.literal literal)
      | .set members => pure members
      | _ => failure
    else do
      let _ ← next
      skipBlanks
      match first, ← setItem with
      -- Only characters bound a range, in their order.
      | .literal first, .literal last =>
        guard (first.char ≤ last.char)
        pure (.range first last)
      | _, _ => failure

/-- The operator that comes next in a set. -/
def setOperator? : Reading (Option SetOperator) := do
  if ← skip "&&" then pure (some .inter)
  else if ← skip "--" then pure (some .difference)
  else if ← skip "~~" then pure (some .symmetricDifference)
  else pure none

/-- The rest of a bracketed set within others that are still open. -/
def setRest : Nat → List OpenSet → OpenSet → Reading SetPattern
  | 0, _, _ => failure
  | fuel + 1, outer, level => do
    skipBlanks
    match ← peek with
    | none => failure
    | some '[' =>
      match ← posixSet? with
      -- A named set is read as a whole, and any other bracket opens a level.
      | some named => setRest fuel outer (level.push named)
      | none => setRest fuel (level :: outer) (← openSet)
    | some ']' =>
      let _ ← next
      let closed := SetPattern.bracketed level.negated level.body
      match outer with
      -- The set is complete when its outermost bracket is closed.
      | [] => pure closed
      | parent :: further => setRest fuel further (parent.push closed)
    | some _ =>
      match ← setOperator? with
      | some operator => setRest fuel outer (level.operate operator)
      | none => setRest fuel outer (level.push (← setMember))

/-- A bracketed set. -/
def bracketed : Reading Pattern := do
  let level ← openSet
  pure (.set (← setRest (← fuel) [] level))

/-- The flag that a letter stands for. -/
def flag? (c : Char) : Option Flag :=
  if c = 'i' then some .ignoreCase
  else if c = 'm' then some .multiLine
  else if c = 's' then some .dotMatchesNewline
  else if c = 'U' then some .lazyFirst
  else if c = 'u' then some .unicode
  else if c = 'R' then some .crlf
  else if c = 'x' then some .ignoreBlanks
  else none

/-- The flags that letters switch; each is named once, and a hyphen is not the last sign. -/
def flagsOf? (letters : List Char) : Option FlagChange := do
  let (on, off) ← match Text.cutAt '-' letters with
    | some (_, []) => none
    | some (on, off) => some (on, off)
    | none => some (letters, [])
  let on ← on.mapM flag?
  let off ← off.mapM flag?
  -- A flag may be named once, be it switched on or off.
  if (on ++ off).eraseDups.length = (on ++ off).length then some ⟨on, off⟩ else none

/-- A character that the name of a group may begin or go on with. -/
def isNameChar (isFirst : Bool) (c : Char) : Bool :=
  if isFirst then c = '_' || Unicode.isAlphabetic c
  else c = '_' || c = '.' || c = '[' || c = ']' || Unicode.isAlphanumeric c

/-- The name of a group, up to its closing sign; no two groups have one name. -/
def groupName : Reading (List Char) := do
  let source ← get
  let name := source.rest.takeWhile (· ≠ '>')
  match source.rest.drop name.length, name with
  | _ :: rest, first :: later =>
    guard (isNameChar true first && later.all (isNameChar false))
    -- A name is used for one group only.
    guard (source.names.lookup name).isNone
    set { source with rest }
    pure name
  | _, _ => failure

/-- The number of a group that begins here. -/
def numberGroup : Reading Nat := do
  modify fun source => { source with groups := source.groups + 1 }
  pure (← get).groups

/-- What an opening parenthesis begins: a group, or flags for the rest of the group around it. -/
inductive Opening where
  | group (kind : GroupKind)
  | flags (change : FlagChange)
  deriving Repr, DecidableEq

/-- The start of a group with a name. -/
def namedGroup : Reading Opening := do
  -- Groups are numbered where they open, with a name or without.
  let index ← numberGroup
  let name ← groupName
  modify fun source => { source with names := (name, index) :: source.names }
  pure (.group (.capturing index))

/-- Flags after their question mark, and what their end makes of them. -/
def flagOpening : Reading Opening := do
  let source ← get
  let letters := source.rest.takeWhile fun c => c ≠ ':' && c ≠ ')'
  match source.rest.drop letters.length, flagsOf? letters with
  | ':' :: rest, some change =>
    set { source with rest }
    pure (.group (.plain change))
  | ')' :: rest, some change =>
    -- Without any flag this would be a repetition of nothing.
    guard (!letters.isEmpty)
    set { source with rest }
    pure (.flags change)
  | _, _ => failure

/-- What follows an opening parenthesis; looking ahead and behind is not supported. -/
def opening : Reading Opening := do
  expect '('
  skipBlanks
  if ← skip "?P<" then namedGroup
  else if ← skip "?" then
    -- Signs of looking ahead or behind are refused before flags are read.
    if (← skip "=") || (← skip "!") || (← skip "<=") || (← skip "<!") then failure
    else if ← skip "<" then namedGroup
    else flagOpening
  else pure (.group (.capturing (← numberGroup)))

/-- A group that is still open: its branches and the parts of the last one, latest first. -/
structure OpenGroup where
  kind : GroupKind
  outerBlanks : Bool
  branches : List Pattern
  parts : List Pattern
  deriving Repr, DecidableEq

namespace OpenGroup

/-- An open group with one more part. -/
def push (level : OpenGroup) (part : Pattern) : OpenGroup :=
  { level with parts := part :: level.parts }

/-- An open group after a bar. -/
def branch (level : OpenGroup) : OpenGroup :=
  { level with branches := .ofSequence level.parts :: level.branches, parts := [] }

/-- What stands between a group's parentheses. -/
def body (level : OpenGroup) : Pattern :=
  -- The last branch has no bar behind it.
  .ofChoices level.branch.branches

/-- An open group whose last part is repeated. -/
def repeatLast? (level : OpenGroup) (least : Nat) (most : Option Nat) (greedy : Bool) :
    Option OpenGroup :=
  match level.parts with
  | part :: earlier =>
    if part.isRepeatable then some { level with parts := .repeated least most greedy part :: earlier }
    else none
  | [] => none

end OpenGroup

/-- Blanks are ignored from here on or not. -/
def ignoringBlanks (ignore : Bool) : Reading Unit :=
  modify fun source => { source with ignoreBlanks := ignore }

/-- A group after what begins it. -/
def opened (outer : List OpenGroup) (level : OpenGroup) :
    Opening → Reading (List OpenGroup × OpenGroup)
  | .flags change => do
    ignoringBlanks (change.apply .ignoreBlanks (← get).ignoreBlanks)
    pure (outer, level.push (.flags change))
  | .group kind => do
    -- How blanks are treated is set back when the group is closed.
    let before := (← get).ignoreBlanks
    match kind with
    | .plain change => ignoringBlanks (change.apply .ignoreBlanks before)
    | .capturing _ => pure ()
    pure (level :: outer, ⟨kind, before, [], []⟩)

/-- A repetition of the last part, by a sign that may be made to prefer less. -/
def repetition (level : OpenGroup) (c : Char) : Reading OpenGroup := do
  -- There must be something to repeat before any count is read.
  guard (level.repeatLast? 0 none true).isSome
  let _ ← next
  let (least, most) ← match c with
    | '?' => pure (0, some 1)
    | '*' => pure (0, none)
    | '+' => pure (1, none)
    | _ => do
      let found ← bounds
      skipBlanks
      pure found
  let greedy := !(← skip "?")
  match level.repeatLast? least most greedy with
  | some level => pure level
  | none => failure

/-- A character outside brackets that has no other meaning, or an anchor. -/
def primitive : Reading Pattern := do
  match ← next with
  | '\\' => escape
  | '.' => pure .anyChar
  | '^' => pure (.anchor .lineStart)
  | '$' => pure (.anchor .lineEnd)
  | c => pure (plain c)

/-- The rest of a pattern within groups that are still open. -/
def patternRest : Nat → List OpenGroup → OpenGroup → Reading Pattern
  | 0, _, _ => failure
  | fuel + 1, outer, level => do
    skipBlanks
    match ← peek with
    -- At the end of the text no group may be open.
    | none => if outer.isEmpty then pure level.body else failure
    | some '(' =>
      let (outer, level) ← opened outer level (← opening)
      patternRest fuel outer level
    | some ')' =>
      let _ ← next
      -- A closing parenthesis needs a group to close, and undoes what the group has changed.
      ignoringBlanks level.outerBlanks
      match outer with
      | [] => failure
      | parent :: further =>
        patternRest fuel further (parent.push (.group level.kind level.body))
    | some '|' =>
      let _ ← next
      patternRest fuel outer level.branch
    | some '[' => patternRest fuel outer (level.push (← bracketed))
    | some c =>
      if c = '?' || c = '*' || c = '+' || c = '\x7b' then
        patternRest fuel outer (← repetition level c)
      else patternRest fuel outer (level.push (← primitive))

end Reading

/-- The pattern that a text writes, and the names of its groups with their numbers. -/
def Pattern.parse? (text : List Char) : Option (Pattern × List (List Char × Nat)) := do
  -- The whole pattern is read as a group that no parenthesis has opened.
  let start : Reading.OpenGroup := ⟨.plain ⟨[], []⟩, false, [], []⟩
  let (pattern, source) ← (Reading.patternRest (text.length + 1) [] start).run ⟨text, false, 0, []⟩
  if pattern.height .elsewhere ≤ depthLimit then some (pattern, source.names) else none

end Regex

end TemplateLint
