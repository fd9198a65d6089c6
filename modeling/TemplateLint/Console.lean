import TemplateLint.Text.Content

/-! Lines shown to a user, and their colours. -/

namespace TemplateLint

/-- What a line is for. -/
inductive Channel where
  | log
  | warn
  | error
  deriving Repr, DecidableEq, Inhabited

/-- One line shown to a user. -/
structure Line where
  channel : Channel
  text : String
  deriving Repr, DecidableEq, Inhabited

/-- How a piece of text is shown on a terminal. -/
inductive Style where
  | bold
  | red
  | green
  | yellow
  | blue
  | grey
  deriving Repr, DecidableEq

namespace Style

/-- The codes that turn a style on and off. -/
def codes : Style → String × String
  | .bold => ("1", "0")
  | .red => ("31", "39")
  | .green => ("32", "39")
  | .yellow => ("33", "39")
  | .blue => ("34", "39")
  | .grey => ("90", "39")

/-- A text between the codes of a style. -/
def wrap (style : Style) (text : String) : String :=
  "\x1b[" ++ style.codes.1 ++ "m" ++ text ++ "\x1b[" ++ style.codes.2 ++ "m"

/-- A text in several styles, the last outermost, or plain without colours. -/
def paint (colours : Bool) (styles : List Style) (text : String) : String :=
  if colours then styles.foldl (fun painted style => style.wrap painted) text else text

end Style

namespace Line

/-- What stands before an error shown to a user. -/
def errorMark (colours : Bool) : String :=
  Style.paint colours [.red, .bold] "error:"

/-- What stands before a warning shown to a user. -/
def warnMark (colours : Bool) : String :=
  Style.paint colours [.yellow, .bold] "warn:"

/-- The texts of the lines that are plain output. -/
def logged (lines : List Line) : List String :=
  (lines.filter (·.channel = .log)).map (·.text)

/-- What a process writes to its standard output. -/
def standardOutput (lines : List Line) : String :=
  String.join ((logged lines).map (· ++ "\n"))

/-- What a process writes to its standard error. -/
def standardError (colours : Bool) (lines : List Line) : String :=
  String.join (lines.map fun line =>
    match line.channel with
    | .log => ""
    | .warn => warnMark colours ++ " " ++ line.text ++ "\n"
    | .error => errorMark colours ++ " " ++ line.text ++ "\n")

end Line

end TemplateLint
