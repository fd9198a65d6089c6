import TemplateLint.Error
import TemplateLint.Text.Basic

/-! Glob patterns: how they are read, and which texts they match. -/

namespace TemplateLint

namespace Glob

/-- What a bracket lists: single characters and ranges. -/
inductive Member where
  | single (c : Char)
  | range (first last : Char)
  deriving Repr, DecidableEq

/-- A part of a pattern. -/
inductive Token where
  | char (c : Char)
  | anyChar
  | within (members : List Member)
  | except (members : List Member)
  | anySequence
  | anyRecursive
  deriving Repr, DecidableEq

namespace Member

/-- A character is listed. -/
def contains (c : Char) : Member → Bool
  | .single listed => c = listed
  | .range first last => first ≤ c && c ≤ last

/-- What the characters between brackets list; a hyphen between two of them makes a range. -/
def ofChars : List Char → List Member
  | first :: '-' :: last :: rest => .range first last :: ofChars rest
  | c :: rest => .single c :: ofChars rest
  | [] => []

end Member

namespace Token

/-- A token for one character matches a character; only a slash itself matches a slash. -/
def accepts (token : Token) (c : Char) : Bool :=
  match token with
  | .char own => c = own
  | .anyChar => c ≠ '/'
  | .within members => c ≠ '/' && members.any (·.contains c)
  | .except members => c ≠ '/' && !members.any (·.contains c)
  | .anySequence => false
  | .anyRecursive => false

/-- A token for any run of directories. -/
def isRecursive (token : Token) : Bool :=
  token = .anyRecursive

end Token

/-- A bracket expression after its opening bracket, and the text after it. -/
def readBracket (text : List Char) : Option (Token × List Char) :=
  -- The first listed character may be a closing bracket, so the search starts after it.
  let upToClose (listed : List Char) : Option (List Char × List Char) :=
    match listed with
    | [] => none
    | first :: rest => (Text.cutAt ']' rest).map fun (more, after) => (first :: more, after)
  match text with
  | '!' :: listed =>
    (upToClose listed).map fun (members, after) => (.except (Member.ofChars members), after)
  | listed =>
    (upToClose listed).map fun (members, after) => (.within (Member.ofChars members), after)

/-- The token list with one more run of directories, unless it already ends with one. -/
def addRecursive (read : List Token) : List Token :=
  -- The list is kept in reverse; a single token in it is not looked at.
  match read with
  | .anyRecursive :: _ :: _ => read
  | _ => .anyRecursive :: read

/-- The tokens of a pattern in reverse, given those before and the character before the text. -/
def readTokens : Nat → Option Char → List Token → List Char → Except GlobFault (List Token)
  | 0, _, read, _ => .ok read
  | _, _, read, [] => .ok read
  | steps + 1, before, read, c :: rest =>
    if c = '?' then readTokens steps (some c) (.anyChar :: read) rest
    else if c = '*' then
      let stars := 1 + (rest.takeWhile (· = '*')).length
      let after := rest.dropWhile (· = '*')
      if 2 < stars then .error .wildcards
      else if stars = 1 then readTokens steps (some c) (.anySequence :: read) after
      else if before = none ∨ before = some '/' then
        match after with
        | [] => readTokens steps (some '*') (addRecursive read) []
        | '/' :: more => readTokens steps (some '/') (addRecursive read) more
        | _ => .error .recursion
      else .error .recursion
    else if c = '[' then
      match readBracket rest with
      | some (token, after) => readTokens steps (some ']') (token :: read) after
      | none => .error .range
    else readTokens steps (some c) (.char c :: read) rest

/-- The tokens of a pattern. -/
def tokens (pattern : List Char) : Except GlobFault (List Token) :=
  match readTokens pattern.length none [] pattern with
  | .ok read => .ok read.reverse
  | .error fault => .error fault

/-- Some rest of the text up to its first slash satisfies a test. -/
def someRest (test : List Char → Bool) : List Char → Bool
  | [] => test []
  | c :: rest => test (c :: rest) || (c ≠ '/' && someRest test rest)

/-- Some rest after a slash, or the empty rest, satisfies a test. -/
def someDescent (test : List Char → Bool) : List Char → Bool
  | [] => test []
  | c :: rest => (c = '/' && test rest) || someDescent test rest

/-- Tokens match a whole text. -/
def matchTokens : List Token → List Char → Bool
  | [], text => text.isEmpty
  | .anySequence :: later, text => someRest (matchTokens later) text
  | .anyRecursive :: later, text => matchTokens later text || someDescent (matchTokens later) text
  | token :: later, c :: text => token.accepts c && matchTokens later text
  | _ :: _, [] => false

end Glob

/-- A glob pattern that is well formed. -/
structure GlobPattern where
  tokens : List Glob.Token
  deriving Repr, DecidableEq

namespace GlobPattern

/-- The pattern that a text writes. -/
def parse (text : String) : Except GlobFault GlobPattern :=
  match Glob.tokens text.toList with
  | .ok tokens => .ok ⟨tokens⟩
  | .error fault => .error fault

/-- The pattern matches a whole text. -/
def accepts (pattern : GlobPattern) (text : String) : Bool :=
  Glob.matchTokens pattern.tokens text.toList

/-- The one name that a pattern without wildcards matches. -/
def literal? (pattern : GlobPattern) : Option String :=
  (pattern.tokens.mapM fun token =>
    match token with
    | Glob.Token.char c => some c
    | _ => none).map String.ofList

/-- The pattern stands for any run of directories. -/
def isRecursive (pattern : GlobPattern) : Bool :=
  pattern.tokens.any Glob.Token.isRecursive

/-- The pattern asks for names that begin with a point. -/
def beginsWithPoint (pattern : GlobPattern) : Bool :=
  pattern.tokens.head? = some (.char '.')

/-- A text in which every wildcard stands in brackets, so that it matches only itself. -/
def escape (text : String) : String :=
  .ofList (text.toList.flatMap fun c =>
    if c = '?' ∨ c = '*' ∨ c = '[' ∨ c = ']' then ['[', c, ']'] else [c])

end GlobPattern

end TemplateLint
