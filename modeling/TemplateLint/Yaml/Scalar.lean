import TemplateLint.Document.Node
import TemplateLint.Yaml.Cursor

/-! The scalars of a YAML text: plain, quoted and in blocks. -/

namespace TemplateLint

namespace Yaml

/-- What stands between two runs of characters in a scalar. -/
inductive Gap where
  | spaces (text : List Char)
  | lines (first later : List Char)
  deriving Repr, DecidableEq

namespace Gap

/-- Nothing. -/
def empty : Gap :=
  .spaces []

/-- What a gap is folded to: one line end becomes a blank, and of several the first is dropped. -/
def fold : Gap → List Char
  | .spaces text => text
  | .lines ['\n'] [] => [' ']
  | .lines ['\n'] later => later
  | .lines first later => first ++ later

/-- The gap ends a line. -/
def endsLine : Gap → Bool
  | .spaces _ => false
  | .lines _ _ => true

/-- A gap with one more blank, which counts within a line only. -/
def addSpace (c : Char) : Gap → Gap
  | .spaces text => .spaces (text ++ [c])
  | .lines first later => .lines first later

/-- A gap with one more line end. -/
def addBreak (ended : List Char) : Gap → Gap
  | .spaces _ => .lines ended []
  | .lines first later => .lines first (later ++ ended)

end Gap

/-- The gap from a place on after what is known of it; a tab may not stand for indentation. -/
def readGap (indent : Nat) : Nat → Gap → Cursor → Option (Gap × Cursor)
  | 0, _, _ => none
  | fuel + 1, gap, place =>
    match place.head? with
    | none => some (gap, place)
    | some c =>
      if isSpace c then
        -- In front of a line a tab would stand for indentation.
        if gap.endsLine && place.column < indent && c = '\t' then none
        else readGap indent fuel (gap.addSpace c) (place.skip 1)
      else if isBreak c then
        let (ended, place) := place.takeBreak
        readGap indent fuel (gap.addBreak ended) place
      else some (gap, place)

/-- A character that delimits collections in flow style. -/
def isFlowIndicator (c : Char) : Bool :=
  c = ',' || c = '[' || c = ']' || c = '\x7b' || c = '\x7d'

/-- The characters of a plain scalar up to a blank or to what ends it. -/
def plainRun (inFlow : Bool) : List Char → Option (List Char)
  | [] => some []
  | c :: rest =>
    if isSpace c || isBreak c then some []
    -- In flow style a colon that touches a bracket is neither text nor the mark of a value.
    else if inFlow && c = ':' && rest.head?.any (fun next => next = '?' || isFlowIndicator next) then
      none
    else if (c = ':' && isGap rest.head?) || (inFlow && isFlowIndicator c) then some []
    else (plainRun inFlow rest).map (c :: ·)

/--
The text of a plain scalar, whether it ends a line, and the place after it. In a block it goes on
over lines that are indented by at least so much.
-/
def readPlain (inFlow : Bool) (indent : Nat) :
    Nat → Gap → Cursor → Option (List Char × Bool × Cursor)
  | 0, _, _ => none
  | fuel + 1, gap, place =>
    if place.isMarker || place.head? = some '#' then some ([], gap.endsLine, place)
    else do
      let run ← plainRun inFlow place.rest
      -- A gap is part of the text only if more of the text follows.
      let (before, gap) := if run.isEmpty then ([], gap) else (gap.fold ++ run, Gap.empty)
      let place := place.skip run.length
      if !(place.head?.any fun c => isSpace c || isBreak c) then some (before, gap.endsLine, place)
      else
        let (gap, place) ← readGap indent (place.rest.length + 1) gap place
        -- A line that is indented less belongs to what is around.
        if !inFlow && place.column < indent then some (before, gap.endsLine, place)
        else
          let (later, ends, place) ← readPlain inFlow indent fuel gap place
          some (before ++ later, ends, place)

/-- The character that one letter after a backslash stands for. -/
def letterEscape? (c : Char) : Option Char :=
  if c = '0' then some '\x00'
  else if c = 'a' then some '\x07'
  else if c = 'b' then some '\x08'
  else if c = 't' ∨ c = '\t' then some '\t'
  else if c = 'n' then some '\n'
  else if c = 'v' then some '\x0b'
  else if c = 'f' then some '\x0c'
  else if c = 'r' then some '\r'
  else if c = 'e' then some '\x1b'
  else if c = ' ' ∨ c = '"' ∨ c = '/' ∨ c = '\\' then some c
  else if c = 'N' then some '\x85'
  else if c = '_' then some '\u00a0'
  else if c = 'L' then some '\u2028'
  else if c = 'P' then some '\u2029'
  else none

/-- How many hexadecimal digits follow a letter after a backslash. -/
def hexWidth? (c : Char) : Option Nat :=
  if c = 'x' then some 2
  else if c = 'u' then some 4
  else if c = 'U' then some 8
  else none

/-- The character that an escape stands for, and its length with the backslash. -/
def escape? (rest : List Char) : Option (Char × Nat) :=
  match rest with
  | '\\' :: c :: later =>
    match hexWidth? c with
    | none => (letterEscape? c).map fun value => (value, 2)
    | some width => do
      let digits := later.take width
      let code ← Text.hexNumber? digits
      if digits.length = width ∧ code.isValidChar then some (Char.ofNat code, width + 2) else none
  | _ => none

/-- What ends a run of characters in a quoted scalar. -/
inductive RunEnd where
  | quote
  | gap
  | joinedLine
  deriving Repr, DecidableEq

/-- A run of characters in a quoted scalar, what ends it, and the place there. -/
def quotedRun (quote : Char) : Nat → Cursor → Option (List Char × RunEnd × Cursor)
  | 0, _ => none
  | fuel + 1, place =>
    match place.rest with
    | [] => some ([], .gap, place)
    | c :: rest =>
      if isSpace c || isBreak c then some ([], .gap, place)
      else if c = quote then
        -- In single quotes two of them stand for one.
        if quote = '\x27' ∧ rest.head? = some quote then
          (quotedRun quote fuel (place.skip 2)).map fun (run, found) => (quote :: run, found)
        else some ([], .quote, place.skip 1)
      else if c = '\\' ∧ quote = '"' then
        -- A backslash at the end of a line joins it to the next one.
        if rest.head?.any isBreak then some ([], .joinedLine, ((place.skip 1).takeBreak).2)
        else do
          let (value, length) ← escape? place.rest
          let (run, found) ← quotedRun quote fuel (place.skip length)
          some (value :: run, found)
      else (quotedRun quote fuel (place.skip 1)).map fun (run, found) => (c :: run, found)

/-- The text of a quoted scalar after its opening quote, and the place after its closing one. -/
def readQuoted (quote : Char) : Nat → Cursor → Option (List Char × Cursor)
  | 0, _ => none
  | fuel + 1, place =>
    if place.isMarker || place.rest.isEmpty then none
    else do
      let (run, found, place) ← quotedRun quote (place.rest.length + 1) place
      match found with
      | .quote => some (run, place)
      | .gap | .joinedLine =>
        -- A line end behind a backslash leaves nothing of itself and of the blanks after it.
        let start := if found = .joinedLine then Gap.lines [] [] else Gap.empty
        let (gap, place) ← readGap 0 (place.rest.length + 1) start place
        let (later, place) ← readQuoted quote fuel place
        some (run ++ gap.fold ++ later, place)

/-- What becomes of the line ends after the last line of a block. -/
inductive Chomp where
  | strip
  | clip
  | keep
  deriving Repr, DecidableEq

/-- How a line end after a block is treated, by its sign. -/
def chomp? (c : Char) : Option Chomp :=
  if c = '-' then some .strip
  else if c = '+' then some .keep
  else none

/-- An indentation from one to nine. -/
def increment? (c : Char) : Option Nat :=
  if c.isDigit ∧ c ≠ '0' then some (c.toNat - 0x30) else none

/-- How a block is chomped and indented, by the one or two signs after its indicator. -/
def blockHeader (place : Cursor) : Chomp × Option Nat × Cursor :=
  let sign (place : Cursor) : Option Chomp := place.head?.bind chomp?
  let width (place : Cursor) : Option Nat := place.head?.bind increment?
  -- The two signs come in either order, and each of them may be missing.
  match sign place, width place with
  | some chomp, _ =>
    match width (place.skip 1) with
    | some width => (chomp, some width, place.skip 2)
    | none => (chomp, none, place.skip 1)
  | none, some width =>
    match sign (place.skip 1) with
    | some chomp => (chomp, some width, place.skip 2)
    | none => (.clip, some width, place.skip 1)
  | none, none => (.clip, none, place)

/-- The empty lines before a line of a block, the deepest indentation in them, and its place. -/
def blockBreaks (indent : Option Nat) :
    Nat → Nat → List Char → Cursor → Option (List Char × Nat × Cursor)
  | 0, _, _, _ => none
  | fuel + 1, deepest, breaks, place =>
    -- As long as the indentation is not known every blank belongs to it.
    let room := match indent with
      | none => place.rest.length
      | some indent => indent - place.column
    let spaces := ((place.rest.takeWhile (· = ' ')).take room).length
    let place := place.skip spaces
    let deepest := max deepest place.column
    let inside := indent.all (place.column < ·)
    match place.head? with
    | none => some (breaks, deepest, place)
    | some c =>
      if inside && c = '\t' then none
      else if isBreak c then
        let (ended, place) := place.takeBreak
        blockBreaks indent fuel deepest (breaks ++ ended) place
      else some (breaks, deepest, place)

/-- The lines of a block from a line on: the text, and the line ends that may be chomped. -/
def blockLines (folded : Bool) (indent : Nat) :
    Nat → List Char → List Char → Bool → Cursor → Option (List Char × List Char × List Char × Cursor)
  | 0, _, _, _, _ => none
  | fuel + 1, ended, breaks, afterBlank, place =>
    if place.column ≠ indent || place.rest.isEmpty then some ([], ended, breaks, place)
    else do
      let blank := place.head?.any isSpace
      -- Folding makes a blank of a line end, or leaves it to the empty lines behind it; lines that
      -- start with a blank are kept apart.
      let joint :=
        if folded && ended = ['\n'] && !afterBlank && !blank then
          if breaks.isEmpty then [' '] else []
        else ended
      let (line, place) := place.takeWhile fun c => !isBreak c
      let (ended, place) := place.takeBreak
      let (later, _, place) ← blockBreaks (some indent) (place.rest.length + 1) 0 [] place
      let (text, rest) ← blockLines folded indent fuel ended later blank place
      some (joint ++ breaks ++ line ++ text, rest)

/-- The text of a block after its indicator, and the place after it. -/
def readBlock (folded : Bool) (outer : Int) (place : Cursor) : Option (List Char × Cursor) := do
  let (chomp, increment, place) := blockHeader place
  let (_, place) := place.takeWhile isSpace
  let place :=
    if place.head? = some '#' then (place.takeWhile fun c => !isBreak c).2 else place
  if !isLineEnd place.head? then none
  let (_, place) := place.takeBreak
  let given := increment.map fun increment => (max outer 0).toNat + increment
  let (breaks, deepest, place) ← blockBreaks given (place.rest.length + 1) 0 [] place
  -- Without a sign the first line that is not empty tells the indentation.
  let indent := given.getD (max deepest (max (outer + 1).toNat 1))
  let (text, ended, later, place) ←
    blockLines folded indent (place.rest.length + 1) [] breaks false place
  let tail := match chomp with
    | .strip => []
    | .clip => ended
    | .keep => ended ++ later
  some (text ++ tail, place)

/-- The words that stand for no value. -/
def isNullWord (text : List Char) : Bool :=
  text = ['~'] || text = "null".toList || text = "Null".toList || text = "NULL".toList

/-- A number in a base of which each digit has a value below the base. -/
def numberIn? (base : Nat) (digits : List Char) : Option Nat :=
  if digits.isEmpty then none
  else digits.foldlM (fun number c => do
    let value ← Text.hexValue? c
    if value < base then some (number * base + value) else none) 0

/-- The number that a plain scalar writes; a decimal one does not lead with zeros. -/
def number? (text : List Char) : Option Nat :=
  let text := match text with
    | '+' :: rest => rest
    | text => text
  match text with
  | '0' :: 'x' :: rest => numberIn? 16 rest
  | '0' :: 'o' :: rest => numberIn? 8 rest
  | '0' :: 'b' :: rest => numberIn? 2 rest
  -- A zero in front is no part of a decimal number.
  | '0' :: _ :: _ => none
  | text => numberIn? 10 text

end Yaml

end TemplateLint
