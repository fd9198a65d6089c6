import TemplateLint.Text.Basic

/-! A place in a YAML text, and what may stand there. -/

namespace TemplateLint

namespace Yaml

/-- The text from a place on, and how far the place is into the text, its lines and its line. -/
structure Cursor where
  rest : List Char
  index : Nat
  line : Nat
  column : Nat
  deriving Repr, DecidableEq, Inhabited

/-- The end of a line, or half of one. -/
def isBreak (c : Char) : Bool :=
  c = '\n' || c = '\r' || c = '\x85' || c = '\u2028' || c = '\u2029'

/-- A blank within a line. -/
def isSpace (c : Char) : Bool :=
  c = ' ' || c = '\t'

/-- A character of a YAML text. -/
def isPrintable (c : Char) : Bool :=
  c = '\t' || c = '\n' || c = '\r' || (' ' ≤ c && c ≤ '~') || c = '\x85' ||
    ('\u00a0' ≤ c && c ≤ '\ufffd') || '\uffff' < c

/-- A character of an anchor or of a tag's name. -/
def isNameChar (c : Char) : Bool :=
  c.isAlphanum || c = '_' || c = '-'

/-- No character, a blank or the end of a line. -/
def isGap (c : Option Char) : Bool :=
  c.all fun c => isSpace c || isBreak c

/-- No character or the end of a line. -/
def isLineEnd (c : Option Char) : Bool :=
  c.all isBreak

namespace Cursor

/-- The start of a text. -/
def start (text : List Char) : Cursor :=
  ⟨text, 0, 0, 0⟩

/-- The next character. -/
def head? (at_ : Cursor) : Option Char :=
  at_.rest.head?

/-- The character that is so many places on. -/
def ahead? (at_ : Cursor) (count : Nat) : Option Char :=
  at_.rest[count]?

/-- The place so many characters of the same line further on. -/
def skip (at_ : Cursor) (count : Nat) : Cursor :=
  ⟨at_.rest.drop count, at_.index + count, at_.line, at_.column + count⟩

/-- The place after the characters that satisfy a test, none of which ends a line, and these. -/
def takeWhile (at_ : Cursor) (test : Char → Bool) : List Char × Cursor :=
  let taken := at_.rest.takeWhile test
  (taken, at_.skip taken.length)

/-- The place after the end of a line, and the line feed or separator that stands for it. -/
def takeBreak (at_ : Cursor) : List Char × Cursor :=
  match at_.rest with
  | '\r' :: '\n' :: rest => (['\n'], ⟨rest, at_.index + 2, at_.line + 1, 0⟩)
  | c :: rest =>
    if isBreak c then
      let kept := if c = '\u2028' ∨ c = '\u2029' then [c] else ['\n']
      (kept, ⟨rest, at_.index + 1, at_.line + 1, 0⟩)
    else ([], at_)
  | [] => ([], at_)

/-- A marker of a document's start or end stands at the start of the line. -/
def isMarker (at_ : Cursor) : Bool :=
  at_.column = 0 && (at_.rest.take 3 = ['-', '-', '-'] || at_.rest.take 3 = ['.', '.', '.']) &&
    isGap (at_.ahead? 3)

end Cursor

end Yaml

end TemplateLint
