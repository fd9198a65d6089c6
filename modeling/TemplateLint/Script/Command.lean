import TemplateLint.Text.Basic

/-! Shell scripts as lists of pipelines, and how they are read from text. -/

namespace TemplateLint

namespace Script

/-- A piece of a word: characters as they are, or a parameter to be filled in. -/
inductive Piece where
  | text (value : List Char)
  | parameter (name : List Char)
  deriving Repr, DecidableEq

/-- A word, glued from pieces. -/
abbrev Word :=
  List Piece

/-- A change to where a command reads and writes. -/
inductive Redirection where
  | read (file : Word)
  | write (stream : Nat) (file : Word)
  | extend (stream : Nat) (file : Word)
  | duplicate (stream : Nat) (source : Word)
  deriving Repr, DecidableEq

/-- A command with its arguments, on a line of the script. -/
structure Command where
  line : Nat
  words : List Word
  redirections : List Redirection
  deriving Repr, DecidableEq

/-- When a pipeline runs, given how the one before it ended. -/
inductive Link where
  | always
  | ifGood
  | ifBad
  deriving Repr, DecidableEq

/-- Commands of which each reads what the one before it writes. -/
structure Pipeline where
  link : Link
  commands : List Command
  deriving Repr, DecidableEq

/-- A token of a script. -/
inductive Token where
  | word (value : Word)
  | redirect (stream : Option Nat) (symbol : List Char)
  | separator (symbol : List Char)
  deriving Repr, DecidableEq

/-- Characters that end a word. -/
def endsWord (c : Char) : Bool :=
  c == ' ' || c == '\t' || c == '\n' || c == ';' || c == '&' || c == '|' || c == '<' || c == '>' ||
    c == '(' || c == ')'

/-- Characters of a parameter's name. -/
def isNameChar (c : Char) : Bool :=
  c.isAlphanum || c == '_'

/-- The parameter after a dollar sign, and the text after it. -/
def readParameter : List Char → Piece × List Char
  | '$' :: rest => (.parameter ['$'], rest)
  | '?' :: rest => (.parameter ['?'], rest)
  | '#' :: rest => (.parameter ['#'], rest)
  | '\x7b' :: rest =>
    (.parameter (rest.takeWhile (· ≠ '\x7d')), (rest.dropWhile (· ≠ '\x7d')).drop 1)
  | c :: rest =>
    if c.isDigit then (.parameter [c], rest)
    else if isNameChar c then
      (.parameter ((c :: rest).takeWhile isNameChar), (c :: rest).dropWhile isNameChar)
    -- A dollar sign before anything else stands for itself.
    else (.text ['$'], c :: rest)
  | [] => (.text ['$'], [])

/-- The pieces between double quotes, and the text after them. -/
def readQuoted : Nat → List Char → Option (List Piece × List Char)
  | 0, _ => none
  | _, [] => none
  | _, '"' :: rest => some ([], rest)
  | steps + 1, '\\' :: '\n' :: rest => readQuoted steps rest
  | steps + 1, '\\' :: c :: rest =>
    -- Between quotes a backslash protects four characters only, and stays before any other.
    let kept := if c = '"' ∨ c = '\\' ∨ c = '$' ∨ c = '\x60' then [c] else ['\\', c]
    (readQuoted steps rest).map fun (pieces, after) => (.text kept :: pieces, after)
  | steps + 1, '$' :: rest =>
    let (piece, more) := readParameter rest
    (readQuoted steps more).map fun (pieces, after) => (piece :: pieces, after)
  | steps + 1, c :: rest =>
    (readQuoted steps rest).map fun (pieces, after) => (.text [c] :: pieces, after)

/-- The pieces of a word up to its end, and the text after it. -/
def readWord : Nat → List Char → Option (List Piece × List Char)
  | 0, _ => none
  | _, [] => some ([], [])
  | steps + 1, '\x27' :: rest =>
    match rest.dropWhile (· ≠ '\x27') with
    | [] => none
    | _ :: more =>
      (readWord steps more).map fun (pieces, after) =>
        (.text (rest.takeWhile (· ≠ '\x27')) :: pieces, after)
  | steps + 1, '"' :: rest =>
    match readQuoted steps rest with
    | none => none
    | some (quoted, more) =>
      -- An empty pair of quotes still makes a word.
      (readWord steps more).map fun (pieces, after) => (.text [] :: quoted ++ pieces, after)
  | steps + 1, '\\' :: '\n' :: rest => readWord steps rest
  | steps + 1, '\\' :: c :: rest =>
    (readWord steps rest).map fun (pieces, after) => (.text [c] :: pieces, after)
  | steps + 1, '$' :: rest =>
    let (piece, more) := readParameter rest
    (readWord steps more).map fun (pieces, after) => (piece :: pieces, after)
  | steps + 1, c :: rest =>
    if endsWord c then some ([], c :: rest)
    else (readWord steps rest).map fun (pieces, after) => (.text [c] :: pieces, after)

/-- The redirection at the head of a text, and the text after it. -/
def readRedirect (stream : Option Nat) : List Char → Option (Token × List Char)
  | '>' :: '>' :: rest => some (.redirect stream ['>', '>'], rest)
  | '>' :: '&' :: rest => some (.redirect stream ['>', '&'], rest)
  | '>' :: '|' :: rest => some (.redirect stream ['>'], rest)
  | '>' :: rest => some (.redirect stream ['>'], rest)
  | '<' :: rest => some (.redirect stream ['<'], rest)
  | _ => none

/-- The tokens of a script, each with its line. -/
def tokens : Nat → Nat → List Char → Option (List (Nat × Token))
  | 0, _, _ => none
  | _, _, [] => some []
  | steps + 1, line, ' ' :: rest => tokens steps line rest
  | steps + 1, line, '\t' :: rest => tokens steps line rest
  | steps + 1, line, '\\' :: '\n' :: rest => tokens steps (line + 1) rest
  | steps + 1, line, '\n' :: rest =>
    (tokens steps (line + 1) rest).map ((line, .separator ['\n']) :: ·)
  | steps + 1, line, '#' :: rest => tokens steps line (rest.dropWhile (· ≠ '\n'))
  | steps + 1, line, '&' :: '&' :: rest =>
    (tokens steps line rest).map ((line, .separator ['&', '&']) :: ·)
  | steps + 1, line, '|' :: '|' :: rest =>
    (tokens steps line rest).map ((line, .separator ['|', '|']) :: ·)
  | steps + 1, line, c :: rest =>
    if c = ';' ∨ c = '&' ∨ c = '|' ∨ c = '(' ∨ c = ')' then
      (tokens steps line rest).map ((line, .separator [c]) :: ·)
    else
      -- One digit directly before a redirection names the stream.
      let redirect :=
        match readRedirect none (c :: rest) with
        | some found => some found
        | none => if c.isDigit then readRedirect (some (c.toNat - 48)) rest else none
      match redirect with
      | some (token, after) => (tokens steps line after).map ((line, token) :: ·)
      | none =>
        match readWord steps (c :: rest) with
        | none => none
        | some (word, after) =>
          -- Quoted text and joined lines may hold line feeds, which count for what follows.
          let taken := (c :: rest).take (rest.length + 1 - after.length)
          (tokens steps (line + taken.count '\n') after).map ((line, .word word) :: ·)

/-- What has been read of a script: finished pipelines, and the one in the making. -/
structure Draft where
  done : List Pipeline
  link : Link
  earlier : List Command
  current : Command

namespace Draft

/-- A command with nothing in it. -/
def blank (line : Nat) : Command :=
  ⟨line, [], []⟩

/-- The commands of the pipeline in the making. -/
def commands (draft : Draft) : List Command :=
  if draft.current.words.isEmpty && draft.current.redirections.isEmpty then draft.earlier
  else draft.earlier ++ [draft.current]

/-- The draft after the pipeline in the making ends. -/
def finish (draft : Draft) (link : Link) (line : Nat) : Draft :=
  match draft.commands with
  | [] => { draft with link, current := blank line }
  | commands => ⟨draft.done ++ [⟨draft.link, commands⟩], link, [], blank line⟩

/-- The draft with one more word, on the line of the first word of its command. -/
def addWord (draft : Draft) (line : Nat) (word : Word) : Draft :=
  let start := if draft.current.words.isEmpty then line else draft.current.line
  { draft with current :=
      { draft.current with line := start, words := draft.current.words ++ [word] } }

/-- The draft with one more redirection. -/
def addRedirection (draft : Draft) (redirection : Redirection) : Draft :=
  { draft with current :=
      { draft.current with redirections := draft.current.redirections ++ [redirection] } }

end Draft

/-- The redirection that a symbol and the word after it make. -/
def redirection (stream : Option Nat) (symbol : List Char) (file : Word) : Redirection :=
  if symbol = ['<'] then .read file
  else if symbol = ['>', '>'] then .extend (stream.getD 1) file
  else if symbol = ['>', '&'] then .duplicate (stream.getD 1) file
  else .write (stream.getD 1) file

/-- The pipelines that tokens make. -/
def build : Draft → List (Nat × Token) → Option (List Pipeline)
  | draft, [] => some (draft.finish .always 0).done
  | draft, (line, .word word) :: rest => build (draft.addWord line word) rest
  | draft, (_, .redirect stream symbol) :: (_, .word file) :: rest =>
    build (draft.addRedirection (redirection stream symbol file)) rest
  | _, (_, .redirect _ _) :: _ => none
  | draft, (line, .separator symbol) :: rest =>
    if symbol = ['|'] then
      build { draft with earlier := draft.commands, current := Draft.blank line } rest
    else if symbol = ['&', '&'] then build (draft.finish .ifGood line) rest
    else if symbol = ['|', '|'] then build (draft.finish .ifBad line) rest
    -- Groups of commands are not read.
    else if symbol = ['('] ∨ symbol = [')'] then none
    else build (draft.finish .always line) rest

/-- The pipelines of a script. -/
def parse? (text : List Char) : Option (List Pipeline) :=
  (tokens (text.length + 1) 1 text).bind fun found =>
    build ⟨[], .always, [], Draft.blank 1⟩ found

end Script

end TemplateLint
