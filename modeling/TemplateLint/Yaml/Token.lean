import TemplateLint.Yaml.Scalar

/-! The tokens of a YAML text, in which indentation has become tokens of its own. -/

namespace TemplateLint

namespace Yaml

/-- A tag as it is written: whole, or a handle and what follows it. -/
inductive Tag where
  | verbatim (text : List Char)
  | shorthand (handle suffix : List Char)
  deriving Repr, DecidableEq, Inhabited

/-- A token. -/
inductive Token where
  | version (major minor : Nat)
  | tagHandle (handle target : List Char)
  | documentStart
  | documentEnd
  | sequenceStart
  | mappingStart
  | blockEnd
  | flowSequenceStart
  | flowSequenceEnd
  | flowMappingStart
  | flowMappingEnd
  | entry
  | flowEntry
  | key
  | value
  | alias (name : List Char)
  | anchor (name : List Char)
  | tag (tag : Tag)
  | scalar (text : List Char) (plain : Bool)
  deriving Repr, DecidableEq, Inhabited

/-- A place that turns out to be a key if a colon follows on the same line. -/
structure KeyPlace where
  /-- How many tokens stand before the place. -/
  number : Nat
  index : Nat
  line : Nat
  column : Nat
  /-- Only a key may stand at the place. -/
  required : Bool
  deriving Repr, DecidableEq

/--
A text that is being cut into tokens. There is a possible key for each level of collections in flow
style, the innermost first, and one for the block around them.
-/
structure Scanner where
  place : Cursor
  tokens : List Token
  indent : Int
  outerIndents : List Int
  keyAllowed : Bool
  keys : List (Option KeyPlace)
  deriving Repr, DecidableEq

/-- A step of cutting, which may find that the text is no YAML. -/
abbrev Scanning := StateT Scanner Option

namespace Scanning

/-- How far a key may stand from its colon. -/
def keyReach : Nat :=
  1024

/-- The place is within a collection in flow style. -/
def isFlow (scanner : Scanner) : Bool :=
  1 < scanner.keys.length

/-- Adds a token at the end. -/
def emit (token : Token) : Scanning Unit :=
  modify fun scanner => { scanner with tokens := scanner.tokens ++ [token] }

/-- Adds a token behind so many others. -/
def emitAt (number : Nat) (token : Token) : Scanning Unit :=
  modify fun scanner =>
    { scanner with tokens := scanner.tokens.take number ++ token :: scanner.tokens.drop number }

/-- Goes on at a place. -/
def moveTo (place : Cursor) : Scanning Unit :=
  modify fun scanner => { scanner with place }

/-- Goes on so many characters further. -/
def advance (count : Nat) : Scanning Unit :=
  modify fun scanner => { scanner with place := scanner.place.skip count }

/-- A key may start here or not. -/
def allowKey (allowed : Bool) : Scanning Unit :=
  modify fun scanner => { scanner with keyAllowed := allowed }

/-- Replaces the possible key of the innermost level. -/
def setKey (key : Option KeyPlace) : Scanning Unit :=
  modify fun scanner => { scanner with keys := key :: scanner.keys.drop 1 }

/-- Gives up the possible key of the innermost level, which must not be required. -/
def dropKey : Scanning Unit := do
  match (← get).keys.head? with
  | some (some key) => guard !key.required
  | _ => pure ()
  setKey none

/-- Remembers that a key may start here. -/
def saveKey : Scanning Unit := do
  let scanner ← get
  if scanner.keyAllowed then
    dropKey
    let place := scanner.place
    -- What starts at the indentation of an open block can only be a key.
    let required := !isFlow scanner && scanner.indent = place.column
    setKey (some ⟨scanner.tokens.length, place.index, place.line, place.column, required⟩)

/-- A possible key is out of reach, being on an earlier line or too far back. -/
def isStale (place : Cursor) (key : KeyPlace) : Bool :=
  key.line < place.line || key.index + keyReach < place.index

/-- Gives up all possible keys that are out of reach, none of which may be required. -/
def dropStaleKeys : Scanning Unit := do
  let scanner ← get
  -- A place that had to be a key and got no colon is an error; any other turns out to be none.
  guard (scanner.keys.all fun key => key.all fun key => !(isStale scanner.place key && key.required))
  set { scanner with
    keys := scanner.keys.map (Option.filter fun key => !isStale scanner.place key) }

/-- Opens a collection in a block at a column, unless one is open there. -/
def rollIndent (column : Nat) (number : Option Nat) (token : Token) : Scanning Unit := do
  let scanner ← get
  if !isFlow scanner && scanner.indent < column then
    set { scanner with
      indent := (column : Int)
      outerIndents := scanner.indent :: scanner.outerIndents }
    -- The collection starts before its first key, which may have been read already.
    match number with
    | some number => emitAt number token
    | none => emit token

/-- Closes the collections of a block that are indented deeper than a column. -/
def closeBlocks (column : Int) : List Int → Scanning Unit
  | [] => pure ()
  | outer :: further => do
    let scanner ← get
    if column < scanner.indent then
      set { scanner with indent := outer, outerIndents := further }
      emit .blockEnd
      closeBlocks column further

/-- Closes what is indented deeper than a column, if the place is in no flow style. -/
def unrollIndent (column : Int) : Scanning Unit := do
  let scanner ← get
  if !isFlow scanner then closeBlocks column scanner.outerIndents

/-- Passes over blanks, comments and line ends. A tab does not count where a key may start. -/
def skipGaps : Nat → Scanning Unit
  | 0 => failure
  | fuel + 1 => do
    let scanner ← get
    -- Where a key may start, a tab would stand for indentation.
    let tabs := isFlow scanner || !scanner.keyAllowed
    let (_, place) := scanner.place.takeWhile fun c => c = ' ' || (tabs && c = '\t')
    let place :=
      if place.head? = some '#' then (place.takeWhile fun c => !isBreak c).2 else place
    moveTo place
    if place.head?.any isBreak then
      moveTo place.takeBreak.2
      -- Each line of a block may start with a key.
      if !isFlow scanner then allowKey true
      skipGaps fuel

/-- A name of letters, digits, low lines and hyphens. -/
def name : Scanning (List Char) := do
  let (name, place) := (← get).place.takeWhile isNameChar
  moveTo place
  pure name

/-- The name of an anchor or alias after its sign. -/
def anchorName : Scanning (List Char) := do
  advance 1
  let name ← name
  let next := (← get).place.head?
  let ends := isGap next || next.any fun c =>
    c = '?' || c = ':' || c = ',' || c = ']' || c = '\x7d' || c = '%' || c = '@' || c = '\x60'
  guard (!name.isEmpty && ends)
  pure name

/-- A character that stands for itself in a tag. -/
def isTagChar (c : Char) : Bool :=
  isNameChar c || c = ';' || c = '/' || c = '?' || c = ':' || c = '@' || c = '&' || c = '=' ||
    c = '+' || c = '$' || c = '.' || c = '!' || c = '~' || c = '*' || c = '\x27' || c = '(' ||
    c = ')'

/-- The bytes that two hexadecimal digits after a percent sign each write, and the text after. -/
def percentBytes : Nat → List Char → Option (List UInt8 × List Char)
  | 0, text => some ([], text)
  | count + 1, '%' :: a :: b :: rest => do
    let byte := UInt8.ofNat ((← Text.hexValue? a) * 16 + (← Text.hexValue? b))
    let (bytes, rest) ← percentBytes count rest
    some (byte :: bytes, rest)
  | _, _ => none

/-- How many bytes a character takes that starts with a byte. -/
def encodedLength? (first : Nat) : Option Nat :=
  if first < 0x80 then some 1
  else if first < 0xc0 then none
  else if first < 0xe0 then some 2
  else if first < 0xf0 then some 3
  else if first < 0xf8 then some 4
  else none

/-- The character that percent signs write at the start of a text, and the text after. -/
def percentChar? (text : List Char) : Option (List Char × List Char) := do
  -- The first byte tells how many are to be read, itself included.
  let (first, _) ← percentBytes 1 text
  let length ← encodedLength? (first.headD 0).toNat
  let (bytes, rest) ← percentBytes length text
  let decoded ← String.fromUTF8? ⟨bytes.toArray⟩
  some (decoded.toList, rest)

/-- The characters of a tag's name. -/
def tagText (verbatim : Bool) : Nat → List Char → Option (List Char × List Char)
  | 0, _ => none
  | fuel + 1, text =>
    match text with
    | [] => some ([], [])
    | c :: rest =>
      if c = '%' then do
        let (decoded, rest) ← percentChar? text
        let (later, rest) ← tagText verbatim fuel rest
        some (decoded ++ later, rest)
      else if isTagChar c || (verbatim && (c = ',' || c = '[' || c = ']')) then
        (tagText verbatim fuel rest).map fun (later, rest) => (c :: later, rest)
      else some ([], text)

/-- The characters of a tag's name from here on. -/
def readTagText (verbatim : Bool) : Scanning (List Char) := do
  let place := (← get).place
  match tagText verbatim (place.rest.length + 1) place.rest with
  | some (text, rest) =>
    moveTo (place.skip (place.rest.length - rest.length))
    pure text
  | none => failure

/-- A tag, which a gap must follow, or a comma in flow style. -/
def tag : Scanning Tag := do
  let place := (← get).place
  let tag ←
    -- A tag in angle brackets is whole.
    if place.ahead? 1 = some '<' then do
      advance 2
      let text ← readTagText true
      guard (!text.isEmpty && (← get).place.head? = some '>')
      advance 1
      pure (Tag.verbatim text)
    else do
      advance 1
      let handle ← name
      -- A word between two exclamation marks is a handle; without the second one it begins the
      -- suffix.
      if (← get).place.head? = some '!' then do
        advance 1
        let suffix ← readTagText false
        guard !suffix.isEmpty
        pure (Tag.shorthand ('!' :: handle ++ ['!']) suffix)
      else do
        let suffix := handle ++ (← readTagText false)
        -- An exclamation mark alone is a tag of its own.
        if suffix.isEmpty then pure (Tag.verbatim ['!'])
        else pure (Tag.shorthand ['!'] suffix)
  let scanner ← get
  guard (isGap scanner.place.head? || (isFlow scanner && scanner.place.head? = some ','))
  pure tag

/-- Passes over blanks within the line. -/
def skipSpaces : Scanning Unit := do
  moveTo ((← get).place.takeWhile isSpace).2

/-- A decimal number of at most nine digits. -/
def number : Scanning Nat := do
  let (digits, place) := (← get).place.takeWhile Char.isDigit
  guard (!digits.isEmpty && digits.length ≤ 9)
  moveTo place
  pure (Nat.ofDigitChars 10 digits 0)

/-- What a directive says after its percent sign. -/
def directiveToken : Scanning Token := do
  let word ← name
  skipSpaces
  if word = "YAML".toList then do
    let major ← number
    guard ((← get).place.head? = some '.')
    advance 1
    pure (.version major (← number))
  else if word = "TAG".toList then do
    guard ((← get).place.head? = some '!')
    advance 1
    let inner ← name
    -- Only the handle that is one mark need not be closed by another.
    let closed := (← get).place.head? = some '!'
    guard (closed || inner.isEmpty)
    if closed then advance 1
    let handle := '!' :: inner ++ if closed then ['!'] else []
    guard ((← get).place.head?.any isSpace)
    skipSpaces
    let target ← readTagText true
    guard (!target.isEmpty && isGap (← get).place.head?)
    pure (.tagHandle handle target)
  else failure

/-- A directive, which takes the rest of its line. -/
def directive : Scanning Unit := do
  -- A directive stands outside all blocks.
  unrollIndent (-1)
  dropKey
  allowKey false
  advance 1
  let token ← directiveToken
  skipSpaces
  let place := (← get).place
  let place :=
    if place.head? = some '#' then (place.takeWhile fun c => !isBreak c).2 else place
  guard (isLineEnd place.head?)
  moveTo place.takeBreak.2
  emit token

/-- The marker of a document's start or end. -/
def marker (token : Token) : Scanning Unit := do
  unrollIndent (-1)
  dropKey
  allowKey false
  advance 3
  emit token

/-- The start of a collection in flow style. -/
def openFlow (token : Token) : Scanning Unit := do
  -- The collection as a whole may turn out to be a key.
  saveKey
  modify fun scanner => { scanner with keys := none :: scanner.keys }
  allowKey true
  advance 1
  emit token

/-- The end of a collection in flow style. -/
def closeFlow (token : Token) : Scanning Unit := do
  dropKey
  -- The last level is the block around all brackets, which no bracket closes.
  modify fun scanner =>
    if isFlow scanner then { scanner with keys := scanner.keys.drop 1 } else scanner
  allowKey false
  advance 1
  emit token

/-- A comma in flow style. -/
def flowEntry : Scanning Unit := do
  dropKey
  allowKey true
  advance 1
  emit .flowEntry

/-- The hyphen before an entry of a sequence. -/
def blockEntry : Scanning Unit := do
  let scanner ← get
  if !isFlow scanner then do
    -- In a block an entry starts only where a key might.
    guard scanner.keyAllowed
    rollIndent scanner.place.column none .sequenceStart
  dropKey
  allowKey true
  advance 1
  emit .entry

/-- The question mark before a key. -/
def explicitKey : Scanning Unit := do
  let scanner ← get
  if !isFlow scanner then do
    guard scanner.keyAllowed
    rollIndent scanner.place.column none .mappingStart
  dropKey
  allowKey (!isFlow scanner)
  advance 1
  emit .key

/-- The colon before a value; what stood at the possible key becomes a key. -/
def valueMark : Scanning Unit := do
  let scanner ← get
  match scanner.keys.head? with
  | some (some key) => do
    -- The marks of the key and of its mapping go in front of what has been read as the key.
    emitAt key.number .key
    rollIndent key.column (some key.number) .mappingStart
    setKey none
    allowKey false
  | _ =>
    -- Without a possible key the colon belongs to one that is marked, or to one that is left out.
    if !isFlow scanner then do
      guard scanner.keyAllowed
      rollIndent scanner.place.column none .mappingStart
    allowKey (!isFlow scanner)
  advance 1
  emit .value

/-- A token that may start a key and ends the chance of another one. -/
def keyToken (read : Scanning Token) : Scanning Unit := do
  saveKey
  allowKey false
  emit (← read)

/-- A quoted scalar. -/
def quotedScalar (quote : Char) : Scanning Token := do
  advance 1
  let place := (← get).place
  match readQuoted quote (place.rest.length + 1) place with
  | some (text, place) =>
    moveTo place
    pure (.scalar text false)
  | none => failure

/-- A plain scalar; after one that ends a line, a key may start. -/
def plainScalar : Scanning Token := do
  let scanner ← get
  let place := scanner.place
  -- In a block the scalar goes on over lines that are indented deeper than the block.
  let indent := (scanner.indent + 1).toNat
  match readPlain (isFlow scanner) indent (place.rest.length + 1) .empty place with
  | some (text, endsLine, place) =>
    moveTo place
    if endsLine then allowKey true
    pure (.scalar text true)
  | none => failure

/-- A scalar in a block. -/
def blockScalar (folded : Bool) : Scanning Unit := do
  dropKey
  -- Behind the block a new line begins.
  allowKey true
  advance 1
  let scanner ← get
  match readBlock folded scanner.indent scanner.place with
  | some (text, place) =>
    moveTo place
    emit (.scalar text false)
  | none => failure

/-- A character that starts no plain scalar by itself. -/
def isIndicator (c : Char) : Bool :=
  isFlowIndicator c || c = '-' || c = '?' || c = ':' || c = '#' || c = '&' || c = '*' || c = '!' ||
    c = '|' || c = '>' || c = '\x27' || c = '"' || c = '%' || c = '@' || c = '\x60'

/-- A plain scalar starts with a character before another one. -/
def startsPlain (inFlow : Bool) (c : Char) (next : Option Char) : Bool :=
  !(isIndicator c || isSpace c) || (c = '-' && !next.any isSpace) ||
    (!inFlow && (c = '?' || c = ':') && !isGap next)

/-- The token that starts with a character that stands here. -/
def token (c : Char) : Scanning Unit := do
  let scanner ← get
  let place := scanner.place
  let next := place.ahead? 1
  let inFlow := isFlow scanner
  -- Directives and markers are told first, since their characters may start other tokens too.
  if place.column = 0 ∧ c = '%' then directive
  else if place.isMarker then marker (if c = '-' then .documentStart else .documentEnd)
  else if c = '[' then openFlow .flowSequenceStart
  else if c = '\x7b' then openFlow .flowMappingStart
  else if c = ']' then closeFlow .flowSequenceEnd
  else if c = '\x7d' then closeFlow .flowMappingEnd
  else if c = ',' then flowEntry
  -- Hyphen, question mark and colon are marks only before a gap, and the last two in flow style
  -- always.
  else if c = '-' ∧ isGap next then blockEntry
  else if c = '?' ∧ (inFlow ∨ isGap next) then explicitKey
  else if c = ':' ∧ (inFlow ∨ isGap next) then valueMark
  else if c = '*' then keyToken do pure (.alias (← anchorName))
  else if c = '&' then keyToken do pure (.anchor (← anchorName))
  else if c = '!' then keyToken do pure (.tag (← tag))
  else if c = '|' ∧ !inFlow then blockScalar false
  else if c = '>' ∧ !inFlow then blockScalar true
  else if c = '\x27' ∨ c = '"' then keyToken (quotedScalar c)
  else if startsPlain inFlow c next then keyToken plainScalar
  else failure

/-- The end of the text, which closes all blocks. -/
def finish : Scanning Unit := do
  unrollIndent (-1)
  dropKey

/-- All tokens from here on. -/
def tokens : Nat → Scanning Unit
  | 0 => failure
  | fuel + 1 => do
    skipGaps ((← get).place.rest.length + 1)
    dropStaleKeys
    let place := (← get).place
    -- Blocks that are indented deeper than the next token have ended.
    unrollIndent place.column
    match place.head? with
    | none => finish
    | some c =>
      token c
      tokens fuel

end Scanning

/-- The tokens of a text; a mark of byte order may come first. -/
def tokens? (text : List Char) : Option (List Token) :=
  let text := match text with
    | '\ufeff' :: rest => rest
    | text => text
  if text.all isPrintable then
    -- Before the first column no block is open, and a key may start.
    let start : Scanner := ⟨.start text, [], -1, [], true, [none]⟩
    ((Scanning.tokens (text.length + 1)).run start).map fun (_, scanner) => scanner.tokens
  else none

end Yaml

end TemplateLint
