import TemplateLint.Toml.Scalar
import TemplateLint.Toml.Table

/-! Reading TOML text. -/

namespace TemplateLint

namespace Toml

/-- A step of reading, which may find that the text is no TOML. -/
abbrev Reading := StateT (List Char) Option

namespace Reading

/-- The next character. -/
def next : Reading Char := do
  match ← get with
  | [] => failure
  | c :: rest =>
    set rest
    pure c

/-- The next character, which is left in place. -/
def peek : Reading (Option Char) := do
  pure (← get).head?

/-- Passes over an expected text and says whether it is there. -/
def skip (expected : List Char) : Reading Bool := do
  match Text.after? expected (← get) with
  | some rest =>
    set rest
    pure true
  | none => pure false

/-- Passes over a text that must be there. -/
def expect (expected : List Char) : Reading Unit := do
  guard (← skip expected)

/-- The longest run of characters that satisfy a test. -/
def takeWhile (test : Char → Bool) : Reading (List Char) := do
  let text ← get
  set (text.dropWhile test)
  pure (text.takeWhile test)

/-- How many characters are left, and one more. -/
def fuel : Reading Nat := do
  pure ((← get).length + 1)

/-- A blank within a line. -/
def isSpace (c : Char) : Bool :=
  c = ' ' || c = '\t'

/-- Passes over blanks within a line. -/
def skipSpaces : Reading Unit := do
  let _ ← takeWhile isSpace

/-- A character that no comment and no text on one line holds. -/
def isControl (c : Char) : Bool :=
  (c < ' ' && c ≠ '\t') || c = '\x7f'

/-- Passes over a comment, if there is one. -/
def skipComment : Reading Unit := do
  if ← skip ['#'] then
    let _ ← takeWhile fun c => !isControl c

/-- Passes over the end of a line and says whether it is there. -/
def skipLineEnd : Reading Bool := do
  if ← skip ['\n'] then pure true
  else skip ['\r', '\n']

/-- Passes over blanks, comments and the ends of lines. -/
def skipLines : Nat → Reading Unit
  | 0 => pure ()
  | fuel + 1 => do
    skipSpaces
    skipComment
    if ← skipLineEnd then skipLines fuel

/-- The character that so many hexadecimal digits name. -/
def charOfHex (width : Nat) : Reading Char := do
  let digits := (← get).take width
  guard (digits.length = width)
  modify (List.drop width)
  match Text.hexNumber? digits with
  | some code => if code.isValidChar then pure (Char.ofNat code) else failure
  | none => failure

/-- The character that a backslash and the characters after it stand for. -/
def escape : Reading Char := do
  match ← next with
  | 'b' => pure '\x08'
  | 't' => pure '\t'
  | 'n' => pure '\n'
  | 'f' => pure '\x0c'
  | 'r' => pure '\r'
  | 'e' => pure '\x1b'
  | '"' => pure '"'
  | '\\' => pure '\\'
  | 'x' => charOfHex 2
  | 'u' => charOfHex 4
  | 'U' => charOfHex 8
  | _ => failure

/-- A text on one line up to its closing quote; with double quotes, a backslash escapes. -/
def lineText (quote : Char) : Nat → Reading (List Char)
  | 0 => failure
  | fuel + 1 => do
    let c ← next
    if c = quote then pure []
    else if isControl c then failure
    else
      let c ← if c = '\\' ∧ quote = '"' then escape else pure c
      pure (c :: (← lineText quote fuel))

/-- Passes over a backslash's line end and all blanks after it, if the line does end there. -/
def skipJoinedLines : Reading Bool := do
  -- Blanks behind a backslash are passed over only if nothing else is left of the line.
  let before ← get
  skipSpaces
  if ← skipLineEnd then
    let _ ← takeWhile fun c => isSpace c || c = '\n' || c = '\r'
    pure true
  else do
    set before
    pure false

/-- A text over several lines up to three closing quotes; two more before these belong to it. -/
def linesText (quote : Char) : Nat → Reading (List Char)
  | 0 => failure
  | fuel + 1 => do
    if ← skip [quote, quote, quote] then
      -- Of a longer run of quotes the last three close the text.
      let extra ← takeWhile (· = quote)
      guard (extra.length ≤ 2)
      pure extra
    -- A carriage return is text only as the start of a line end.
    else if ← skip ['\r', '\n'] then pure ('\r' :: '\n' :: (← linesText quote fuel))
    else
      let c ← next
      if c = '\n' then pure (c :: (← linesText quote fuel))
      else if isControl c then failure
      else if c = '\\' ∧ quote = '"' then
        if ← skipJoinedLines then linesText quote fuel
        else do
          let c ← escape
          pure (c :: (← linesText quote fuel))
      else pure (c :: (← linesText quote fuel))

/-- A quoted text over one line or several; a line end right after three quotes is dropped. -/
def quoted (quote : Char) : Reading String := do
  if ← skip [quote, quote, quote] then
    -- The text may begin on the line below its quotes.
    let _ ← skipLineEnd
    pure (.ofList (← linesText quote (← fuel)))
  else do
    expect [quote]
    pure (.ofList (← lineText quote (← fuel)))

/-- A character of a key without quotes. -/
def isKeyChar (c : Char) : Bool :=
  c.isAlphanum || c = '_' || c = '-'

/-- One key, quoted on one line or not. -/
def simpleKey : Reading String := do
  if ← skip ['"'] then pure (.ofList (← lineText '"' (← fuel)))
  else if ← skip ['\x27'] then pure (.ofList (← lineText '\x27' (← fuel)))
  else
    let key ← takeWhile isKeyChar
    guard (!key.isEmpty)
    pure (.ofList key)

/-- Keys with dots between them. -/
def keys : Nat → Reading (List String)
  | 0 => failure
  | fuel + 1 => do
    skipSpaces
    let key ← simpleKey
    skipSpaces
    if ← skip ['.'] then do pure (key :: (← keys fuel))
    else pure [key]

/-- A character that ends a word without quotes. -/
def endsWord (c : Char) : Bool :=
  isSpace c || c = '\n' || c = '\r' || c = ',' || c = ']' || c = '\x7d' || c = '#'

/-- A word without quotes; a date and a time of day with one blank between them are one word. -/
def word : Reading (List Char) := do
  let first ← takeWhile fun c => !endsWord c
  -- A blank goes on with the word only between a date and a time of day.
  match afterDate? first, ← get with
  | some [], ' ' :: c :: rest =>
    if c.isDigit then do
      set (c :: rest)
      pure (first ++ ' ' :: (← takeWhile fun c => !endsWord c))
    else pure first
  | _, _ => pure first

/-- How deeply arrays and tables in braces may be nested. -/
def depthLimit : Nat :=
  80

mutual
/-- A value within so many levels of arrays and tables. -/
def value : Nat → Nat → Reading Node
  | 0, _ => failure
  | fuel + 1, depth => do
    match ← peek with
    | some '"' => do pure (.scalar { text := some (← quoted '"') })
    | some '\x27' => do pure (.scalar { text := some (← quoted '\x27') })
    | some '[' =>
      let _ ← next
      -- Each bracket and each brace is one level.
      match depth with
      | 0 => failure
      | depth + 1 => do pure (.sequence (← items fuel depth) false)
    | some '\x7b' =>
      let _ ← next
      match depth with
      | 0 => failure
      | depth + 1 => do pure (.mapping (entryNodes (← fields fuel depth [])))
    | _ =>
      match scalar? (← word) with
      | some node => pure node
      | none => failure

/-- Items up to the closing bracket; a comma may follow the last. -/
def items : Nat → Nat → Reading (List Node)
  | 0, _ => failure
  | fuel + 1, depth => do
    skipLines (← Reading.fuel)
    if ← skip [']'] then pure []
    else
      let item ← value fuel depth
      skipLines (← Reading.fuel)
      if ← skip [','] then do pure (item :: (← items fuel depth))
      else do
        expect [']']
        pure [item]

/-- Fields up to the closing brace after those before them; a comma may follow the last. -/
def fields : Nat → Nat → Entries → Reading Entries
  | 0, _, _ => failure
  | fuel + 1, depth, entries => do
    skipLines (← Reading.fuel)
    if ← skip ['\x7d'] then pure entries
    else
      let path ← keys (← Reading.fuel)
      expect ['=']
      skipSpaces
      let item ← value fuel depth
      -- The keys in braces are set in a table of their own, where dots make tables too.
      match entries.assign? path item with
      | none => failure
      | some entries =>
        skipLines (← Reading.fuel)
        if ← skip [','] then fields fuel depth entries
        else do
          expect ['\x7d']
          pure entries
end

/-- The end of a statement: a comment if any, and the end of the line or of the text. -/
def statementEnd : Reading Unit := do
  skipSpaces
  skipComment
  if ← skipLineEnd then pure ()
  else guard (← get).isEmpty

/-- The statements of a text from a header on, one after another. -/
def statements : Nat → List String → Entries → Reading Entries
  | 0, _, _ => failure
  | fuel + 1, header, entries => do
    skipLines (← Reading.fuel)
    if (← get).isEmpty then pure entries
    -- Two brackets are told before one, of which they could be the start.
    else if ← skip ['[', '['] then
      let path ← keys (← Reading.fuel)
      expect [']', ']']
      statementEnd
      match entries.openArray? path with
      | some entries => statements fuel path entries
      | none => failure
    else if ← skip ['['] then
      let path ← keys (← Reading.fuel)
      expect [']']
      statementEnd
      match entries.openTable? path with
      | some entries => statements fuel path entries
      | none => failure
    else
      let path ← keys (← Reading.fuel)
      expect ['=']
      skipSpaces
      let item ← value (← Reading.fuel) depthLimit
      statementEnd
      -- A key is set in the table that the last header has opened.
      match entries.assignIn? header path item with
      | some entries => statements fuel header entries
      | none => failure

end Reading

/-- The settings document that a TOML text writes; a mark of byte order may come first. -/
def parse? (text : List Char) : Option Node :=
  let text := match text with
    | '\ufeff' :: rest => rest
    | text => text
  ((Reading.statements (text.length + 1) [] []).run text).map fun (entries, _) =>
    .mapping (entryNodes entries)

end Toml

end TemplateLint
