import TemplateLint.Text.Basic

/-! Comments in templates that turn rules off. -/

namespace TemplateLint

/-- The rules that a comment turns off by name; a comment without names turns off all. -/
structure Directive where
  names : List String
  deriving Repr, DecidableEq

namespace Directive

/-- The word that a directive begins with. -/
def keyword : List Char :=
  "tmplint-disable".toList

/-- A text without two hyphens at its end. -/
def withoutDashes (text : List Char) : List Char :=
  match text.reverse with
  | '-' :: '-' :: earlier => earlier.reverse
  | _ => text

/--
The directive whose keyword is followed by a text up to the closing braces. Names are set apart by
blanks, from the keyword too; two hyphens at the end belong to the comment.
-/
def ofArguments? (arguments : List Char) : Option Directive :=
  match arguments with
  | [] => some ⟨[]⟩
  | c :: _ =>
    if isBlank c then some ⟨(Text.words (withoutDashes arguments)).map String.ofList⟩
    else if arguments = ['-', '-'] then some ⟨[]⟩
    else none

/-- The text after two hyphens that may open it. -/
def afterDashes : List Char → List Char
  | '-' :: '-' :: rest => rest
  | text => text

/-- The directive that a text starts with, and the text after its closing braces. -/
def read? (text : List Char) : Option (Directive × List Char) := do
  let inner ← Text.after? ['\x7b', '\x7b', '!'] text
  let inner ← Text.after? keyword ((afterDashes inner).dropWhile isBlank)
  let (arguments, rest) ← Text.cutAt '\x7d' inner
  let rest ← Text.after? ['\x7d'] rest
  some (← ofArguments? arguments, rest)

/-- The directives of a text, of which as many characters as told are passed over first. -/
def scan : Nat → List Char → List Directive
  | _, [] => []
  | skipped + 1, _ :: rest => scan skipped rest
  | 0, c :: rest =>
    match read? (c :: rest) with
    | some (directive, after) => directive :: scan (rest.length - after.length) rest
    | none => scan 0 rest

/-- The directives of a template from its start to its end; they do not overlap. -/
def all (source : String) : List Directive :=
  scan 0 source.toList

/-- A directive turns a rule off. -/
def disables (directive : Directive) (rule : String) : Bool :=
  directive.names.isEmpty || directive.names.contains rule

end Directive

end TemplateLint
